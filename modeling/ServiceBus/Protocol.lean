import ServiceBus.Method

/-!
How a method is asked for. The side that calls has a stub for every method, with the number that
stands for it and the arguments as they are written. The side that answers has a table of its own:
which method a number stands for, and what is read for its arguments. Here the two are shown to
agree.
-/
namespace ServiceBus

open Wire

variable {i : Interface}

/-- The calling side of a method: its number, and its arguments in the order of writing. -/
structure Stub (m : Method i) where
  code : UInt32
  types : List (WireType false)
  values : m.Args → Vals types

/-- The answering side of a number: the method, and its arguments from what was read. -/
structure Skeleton (i : Interface) where
  method : Method i
  types : List (WireType false)
  args : Vals types → method.Args

namespace Method

def stub : {i : Interface} → (m : Method i) → Stub m
  | _, close => ⟨1, [], id⟩
  | _, isClosed => ⟨2, [], id⟩
  | _, setConfiguration => ⟨3, [.bandConfig], id⟩
  | _, getConfiguration => ⟨4, [], id⟩
  | _, setMuted => ⟨5, [.bool], id⟩
  | _, isMuted => ⟨6, [], id⟩
  | _, step => ⟨7, [.bool, .bool], fun (down, skip, _) => (down, skip, ())⟩
  | _, scan => ⟨8, [.bool, .bool], fun (down, skip, _) => (down, skip, ())⟩
  | _, tune => ⟨9, [.selector], id⟩
  | _, cancel => ⟨10, [], id⟩
  | _, cancelAnnouncement => ⟨11, [], id⟩
  | _, getProgramInformation => ⟨12, [], id⟩
  | _, getImage => ⟨13, [.int32], id⟩
  | _, startBackgroundScan => ⟨14, [], id⟩
  | _, getProgramList => ⟨15, [.option (.map .text .text)], id⟩
  | _, isConfigFlagSupported => ⟨16, [.int32], id⟩
  | _, isConfigFlagSet => ⟨17, [.int32], id⟩
  | _, setConfigFlag => ⟨18, [.int32, .bool], fun (flag, value, _) => (flag, value, ())⟩
  | _, setParameters => ⟨19, [.map .text .text], id⟩
  | _, getParameters => ⟨20, [.list .text], id⟩
  | _, isAntennaConnected => ⟨21, [], id⟩
  | _, listModules => ⟨1, [], id⟩
  | _, openTuner =>
    ⟨2, [.int32, .option .bandConfig, .bool],
      fun (moduleId, config, withAudio, _) => (moduleId, config, withAudio, ())⟩
  | _, sendBreadcrumb => ⟨1, [.int32, .int32], fun (label, state, _) => (label, state, ())⟩
  | _, sendBinaryPush =>
    ⟨2, [.text, .int64, .int32, .int32, .list .int64],
      fun (train, version, options, state, experiments, _) =>
        (train, version, options, state, experiments, ())⟩

/-- The number of the method in a transaction; the numbers of each interface start from one. -/
def code (m : Method i) : UInt32 := m.stub.code

def write (m : Method i) (args : m.Args) : Writer :=
  (Vals.codec m.stub.types).write (m.stub.values args)

end Method

def Interface.skeleton? : (i : Interface) → UInt32 → Option (Skeleton i)
  | .tuner, 1 => some ⟨.close, [], id⟩
  | .tuner, 2 => some ⟨.isClosed, [], id⟩
  | .tuner, 3 => some ⟨.setConfiguration, [.bandConfig], id⟩
  | .tuner, 4 => some ⟨.getConfiguration, [], id⟩
  | .tuner, 5 => some ⟨.setMuted, [.bool], id⟩
  | .tuner, 6 => some ⟨.isMuted, [], id⟩
  | .tuner, 7 => some ⟨.step, [.bool, .bool], fun (down, skip, _) => (down, skip, ())⟩
  | .tuner, 8 => some ⟨.scan, [.bool, .bool], fun (down, skip, _) => (down, skip, ())⟩
  | .tuner, 9 => some ⟨.tune, [.selector], id⟩
  | .tuner, 10 => some ⟨.cancel, [], id⟩
  | .tuner, 11 => some ⟨.cancelAnnouncement, [], id⟩
  | .tuner, 12 => some ⟨.getProgramInformation, [], id⟩
  | .tuner, 13 => some ⟨.getImage, [.int32], id⟩
  | .tuner, 14 => some ⟨.startBackgroundScan, [], id⟩
  | .tuner, 15 => some ⟨.getProgramList, [.option (.map .text .text)], id⟩
  | .tuner, 16 => some ⟨.isConfigFlagSupported, [.int32], id⟩
  | .tuner, 17 => some ⟨.isConfigFlagSet, [.int32], id⟩
  | .tuner, 18 => some ⟨.setConfigFlag, [.int32, .bool], fun (flag, value, _) => (flag, value, ())⟩
  | .tuner, 19 => some ⟨.setParameters, [.map .text .text], id⟩
  | .tuner, 20 => some ⟨.getParameters, [.list .text], id⟩
  | .tuner, 21 => some ⟨.isAntennaConnected, [], id⟩
  | .radio, 1 => some ⟨.listModules, [], id⟩
  | .radio, 2 =>
    some ⟨.openTuner, [.int32, .option .bandConfig, .bool],
      fun (moduleId, config, withAudio, _) => (moduleId, config, withAudio, ())⟩
  | .stats, 1 =>
    some ⟨.sendBreadcrumb, [.int32, .int32], fun (label, state, _) => (label, state, ())⟩
  | .stats, 2 =>
    some ⟨.sendBinaryPush, [.text, .int64, .int32, .int32, .list .int64],
      fun (train, version, options, state, experiments, _) =>
        (train, version, options, state, experiments, ())⟩
  | _, _ => none

namespace Method

theorem stub_eq (m : Method i) : m.stub = ⟨m.code, m.params, id⟩ := by
  cases m <;> rfl

theorem write_eq (m : Method i) (args : m.Args) :
    m.write args = (Vals.codec m.params).write args := by
  rw [write, m.stub_eq]
  rfl

@[simp] theorem skeleton?_code (m : Method i) : i.skeleton? m.code = some ⟨m, m.params, id⟩ := by
  cases m <;> rfl

theorem code_injective {m n : Method i} (h : m.code = n.code) : m = n := by
  have same := m.skeleton?_code
  rw [h, n.skeleton?_code] at same
  cases same
  rfl

end Method

theorem code_of_skeleton? {code : UInt32} {k : Skeleton i} (h : i.skeleton? code = some k) :
    k.method.code = code := by
  unfold Interface.skeleton? at h
  split at h <;> cases h <;> rfl

theorem skeleton?_eq_some_iff {code : UInt32} {k : Skeleton i} :
    i.skeleton? code = some k ↔ ∃ m : Method i, m.code = code ∧ k = ⟨m, m.params, id⟩ := by
  constructor
  · intro h
    obtain rfl := code_of_skeleton? h
    rw [Method.skeleton?_code] at h
    exact ⟨k.method, rfl, (Option.some.inj h).symm⟩
  · rintro ⟨m, rfl, rfl⟩
    exact m.skeleton?_code

/-- The two sides agree: what the stub of a method writes is read for that method, with the
arguments that it was given. -/
theorem exists_skeleton (m : Method i) :
    ∃ args, i.skeleton? m.stub.code = some ⟨m, m.stub.types, args⟩ ∧
      ∀ a, args (m.stub.values a) = a := by
  cases m <;> exact ⟨id, rfl, fun _ => rfl⟩

end ServiceBus
