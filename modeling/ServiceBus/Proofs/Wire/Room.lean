import ServiceBus.Proofs.Wire.RoundTrip

/-!
The round trip of every wire type. The one thing that can keep a written value from being read back
is a list or a map whose elements take no space: its length is checked against the bytes that
follow, although none of them is its own. `WireType.Room` says at every depth when there are enough.
-/
namespace ServiceBus

open Wire Wire.Codec

namespace Wire.Codec

theorem faithful_message : message.Faithful := faithful_text.option

theorem faithful_status : status.Faithful := by
  intro s m p ha objects ho tail
  obtain ⟨q, r, hq, hr, rfl⟩ := Writer.adds_append.1 ha
  obtain ⟨hoq, hor⟩ := append_isPrefix_drop ho
  have hx := faithful_int32 hq hoq (r.bytes ++ tail)
  cases s with
  | ok =>
    obtain rfl := Writer.adds_done.1 hr
    exact hx.bind_true (Reader.recovers_pure Status.ok)
  | raised e t =>
    refine hx.bind_true ?_
    rw [Status.exception_raised, ExceptionCode.ofRaw?_raw]
    exact (faithful_message hr hor tail).bind_pure rfl
  | serviceSpecific n t =>
    obtain ⟨r₁, r₂, h₁, h₂, rfl⟩ := Writer.adds_append.1 hr
    obtain ⟨ho₁, ho₂⟩ := append_isPrefix_drop hor
    refine hx.bind_true ?_
    rw [Status.exception_serviceSpecific, ExceptionCode.ofRaw?_raw]
    exact (faithful_message h₁ ho₁ _).bind_true ((faithful_int32 h₂ ho₂ tail).bind_pure rfl)
  | transactionFailed c t =>
    obtain ⟨r₁, r₂, h₁, h₂, rfl⟩ := Writer.adds_append.1 hr
    obtain ⟨ho₁, ho₂⟩ := append_isPrefix_drop hor
    refine hx.bind_true ?_
    rw [Status.exception_transactionFailed, ExceptionCode.ofRaw?_raw]
    refine (faithful_message h₁ ho₁ _).bind_true ((faithful_int32 h₂ ho₂ tail).bind_pure ?_)
    rw [StatusCode.ofRaw_raw]
    rfl

theorem solid_int32 : int32.Solid := solid_word32.iso _ _

theorem solid_int64 : int64.Solid := solid_word64.iso _ _

theorem solid_bool : bool.Solid := solid_word32.iso _ _

theorem solid_status : status.Solid := by
  intro s m p ha
  obtain ⟨q, r, hq, _, rfl⟩ := Writer.adds_append.1 ha
  have := solid_int32 hq
  simp only [Payload.bytes_append, List.length_append]
  omega

theorem faithful_band : band.Faithful :=
  faithful_int32.refine fun b => by rw [Band.ofRaw?_raw]

theorem solid_band : band.Solid := solid_int32.refine _ _

theorem faithful_bandConfig : bandConfig.Faithful :=
  (faithful_int32.pair <| faithful_band.pair <| faithful_int32.pair <| faithful_int32.pair <|
    faithful_int32.pair <| faithful_bool.pair <| faithful_bool.pair <| faithful_bool.pair <|
    faithful_bool.pair faithful_bool).iso BandConfig.ofFields_toFields

theorem solid_bandConfig : bandConfig.Solid := (solid_int32.pair_left _).iso _ _

theorem faithful_identifier : identifier.Faithful :=
  (faithful_int32.pair faithful_int64).iso Identifier.ofFields_toFields

theorem solid_identifier : identifier.Solid := (solid_int32.pair_left _).iso _ _

theorem faithful_selector : selector.Faithful :=
  (faithful_int32.pair <| faithful_identifier.pair <|
    (faithful_identifier.list solid_identifier).pair (faithful_int64.list solid_int64)).iso
      ProgramSelector.ofFields_toFields

theorem solid_selector : selector.Solid := (solid_int32.pair_left _).iso _ _

theorem faithful_textMap {α : Type} {c : Codec α} (h : c.Faithful) : (textMap c).Faithful :=
  faithful_text.map h (solid_text.pair_left c)

theorem faithful_metadata : metadata.Faithful :=
  ((faithful_textMap faithful_int32).pair (faithful_textMap faithful_text)).iso
    Metadata.ofFields_toFields

theorem solid_metadata : metadata.Solid := ((solid_map _ _).pair_left _).iso _ _

theorem faithful_programInfo : programInfo.Faithful :=
  (faithful_selector.pair <| faithful_identifier.option.pair <| faithful_identifier.option.pair <|
    (faithful_identifier.list solid_identifier).pair <| faithful_int32.pair <|
    faithful_int32.pair <| faithful_metadata.option.pair <| faithful_textMap faithful_text).iso
      ProgramInfo.ofFields_toFields

theorem solid_programInfo : programInfo.Solid := (solid_selector.pair_left _).iso _ _

theorem faithful_moduleProperties : moduleProperties.Faithful :=
  (faithful_int32.pair <| faithful_text.pair <| faithful_text.pair <| faithful_text.pair <|
    faithful_text.pair <| faithful_text.pair <| faithful_int32.pair <| faithful_int32.pair <|
    faithful_bool.pair <| faithful_bool.pair <| faithful_bandConfig.list solid_bandConfig).iso
      ModuleProperties.ofFields_toFields

theorem solid_moduleProperties : moduleProperties.Solid := (solid_int32.pair_left _).iso _ _

end Wire.Codec

namespace WireType

/-- Whether the values of a type take no space. -/
def isUnit {o : Bool} : WireType o → Bool
  | unit => true
  | _ => false

theorem solid {o : Bool} (t : WireType o) (h : t.isUnit = false) : t.codec.Solid := by
  cases t with
  | unit => cases h
  | bool => exact solid_bool
  | byte => exact solid_byte
  | int32 => exact solid_int32
  | uint32 => exact solid_word32
  | int64 => exact solid_int64
  | text => exact solid_text
  | binder => exact solid_object
  | status => exact solid_status
  | band => exact solid_band
  | bandConfig => exact solid_bandConfig
  | identifier => exact solid_identifier
  | selector => exact solid_selector
  | metadata => exact solid_metadata
  | programInfo => exact solid_programInfo
  | moduleProperties => exact solid_moduleProperties
  | list t => exact solid_list _
  | option t => exact solid_option _
  | map k v => exact solid_map _ _

theorem solid_pair {o o' : Bool} {k : WireType o} {v : WireType o'}
    (h : ¬ (k.isUnit = true ∧ v.isUnit = true)) : (k.codec.pair v.codec).Solid := by
  cases uk : k.isUnit with
  | true =>
    have uv : v.isUnit = false := by simpa [uk] using h
    exact (v.solid uv).pair_right _
  | false => exact (k.solid uk).pair_left _

/-- A value that is written at a place of a parcel with so many bytes in the end leaves room: lists
of units, and maps from units to units, have at least as many bytes behind their length as they
have elements. -/
def Room (total : Nat) : {o : Bool} → (t : WireType o) → t.Val → Mark → Prop
  | _, list t => fun l m =>
    (t.isUnit = true → m.size + 4 + l.length ≤ total) ∧
      Along t.codec.write (Room total t) l (m.skip 4)
  | _, option t => fun x m => ∀ a ∈ x, Room total t a (m.skip 4)
  | _, map k v => fun x m =>
    (k.isUnit = true ∧ v.isUnit = true → m.size + 4 + x.size ≤ total) ∧
      Along (k.codec.pair v.codec).write
        (fun e m => Room total k e.1 m ∧ Room total v e.2 (m.after (k.codec.write e.1))) x.toList
        (m.skip 4)
  | _, _ => fun _ _ => True

/-- Whether no list or map in a type has elements that take no space. -/
def dense : {o : Bool} → WireType o → Bool
  | _, list t => !t.isUnit && t.dense
  | _, option t => t.dense
  | _, map k v => !(k.isUnit && v.isUnit) && k.dense && v.dense
  | _, _ => true

theorem room_of_dense (total : Nat) {o : Bool} (t : WireType o) (h : t.dense = true) (a : t.Val)
    (m : Mark) : t.Room total a m := by
  induction t generalizing m with
  | list t ih =>
    simp only [dense, Bool.and_eq_true, Bool.not_eq_true'] at h
    exact ⟨fun u => absurd (h.1.symm.trans u) (by decide),
      Along.of_forall a _ fun b _ m => ih h.2 b m⟩
  | option t ih => exact fun b _ => ih h b _
  | map k v ihk ihv =>
    simp only [dense, Bool.and_eq_true, Bool.not_eq_true', Bool.and_eq_false_iff] at h
    refine ⟨fun u => ?_, Along.of_forall _ _ fun e _ m => ⟨ihk h.1.2 e.1 m, ihv h.2 e.2 _⟩⟩
    rcases h.1.1 with n | n
    · exact absurd (n.symm.trans u.1) (by decide)
    · exact absurd (n.symm.trans u.2) (by decide)
  | _ => trivial

/-- A value of any type is read back from where it was written if it leaves room, and otherwise
reading misses data. -/
theorem recovers {o : Bool} (t : WireType o) : t.codec.Recovers fun total => t.Room total := by
  induction t with
  | unit => exact faithful_unit
  | bool => exact faithful_bool
  | byte => exact faithful_byte
  | int32 => exact faithful_int32
  | uint32 => exact faithful_word32
  | int64 => exact faithful_int64
  | text => exact faithful_text
  | binder => exact faithful_object
  | status => exact faithful_status
  | band => exact faithful_band
  | bandConfig => exact faithful_bandConfig
  | identifier => exact faithful_identifier
  | selector => exact faithful_selector
  | metadata => exact faithful_metadata
  | programInfo => exact faithful_programInfo
  | moduleProperties => exact faithful_moduleProperties
  | list t ih =>
    cases u : t.isUnit with
    | true => exact ih.list.congr fun l m p total _ _ => by simp [Room, u]
    | false =>
      exact (ih.list_of_solid (t.solid u)).congr fun l m p total _ _ => by simp [Room, u]
  | option t ih => exact ih.option
  | map k v ihk ihv =>
    by_cases u : k.isUnit = true ∧ v.isUnit = true
    · exact (ihk.map ihv).congr fun x m p total _ _ => by simp [Room, u]
    · exact (ihk.map_of_solid ihv (solid_pair u)).congr fun x m p total _ _ => by simp [Room, u]

end WireType

end ServiceBus
