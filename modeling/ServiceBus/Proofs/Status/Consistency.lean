import ServiceBus.Proofs.Parcel.Reading

/-!
What a status says of itself. The code of its exception, its transport code, the number of the
service and the kind of its failure agree with each other, wherever the status comes from. There is
one gap: a parcel can name a failed transaction and give as the reason that all is well, and the
status that is read from it says just that.
-/
namespace ServiceBus

open Wire

theorem StatusCode.ofRaw_eq_ok_iff {n : Int32} : ofRaw n = ok ↔ n = ok.raw := by
  constructor
  · intro h
    cases found : all.find? fun c => c.raw == n with
    | none => simp [ofRaw, found] at h
    | some c =>
      simp only [ofRaw, found, Option.getD_some] at h
      subst h
      exact (beq_iff_eq.1 (List.find?_some (p := fun c : StatusCode => c.raw == n) found)).symm
  · rintro rfl
    exact ofRaw_raw ok

namespace Parcel

variable {α β : Type} {p q : Parcel}

/-- The parts of a status stand between two places of a parcel: the number of its exception, then
the message unless there is no exception, and then the number that an error of the service or a
failed transaction carries. -/
inductive States (p : Parcel) : Status → Parcel → Prop
  | ok {q : Parcel} (exception : p.read .int32 = (.ok ExceptionCode.none.raw, q)) : States p .ok q
  | raised {e : Exception} {m : Option String} {q q' : Parcel}
      (exception : p.read .int32 = (.ok (ExceptionCode.raised e).raw, q))
      (message : q.read (.option .text) = (.ok m, q')) : States p (.raised e m) q'
  | serviceSpecific {n : Int32} {m : Option String} {q q' q'' : Parcel}
      (exception : p.read .int32 = (.ok ExceptionCode.serviceSpecific.raw, q))
      (message : q.read (.option .text) = (.ok m, q'))
      (number : q'.read .int32 = (.ok n, q'')) : States p (.serviceSpecific n m) q''
  | transactionFailed {n : Int32} {m : Option String} {q q' q'' : Parcel}
      (exception : p.read .int32 = (.ok ExceptionCode.transactionFailed.raw, q))
      (message : q.read (.option .text) = (.ok m, q'))
      (reason : q'.read .int32 = (.ok n, q'')) : States p (.transactionFailed (.ofRaw n) m) q''

/-- A status is read just where its parts stand. -/
theorem read_status_iff {s : Status} : p.read .status = (.ok s, q) ↔ p.States s q := by
  have word : (WireType.codec (o := false) .int32).read.Steady := WireType.steady _
  have text : (WireType.codec (o := false) (.option .text)).read.Steady := WireType.steady _
  constructor
  · intro h
    obtain ⟨n, p', exception, h⟩ := (consume_bind_eq_ok word).1 h
    cases code : ExceptionCode.ofRaw? n with
    | none =>
      rw [code] at h
      cases (p'.consume_fail _).symm.trans h
    | some x =>
      obtain rfl := ExceptionCode.raw_of_ofRaw? code
      rw [code] at h
      cases x with
      | none =>
        cases (p'.consume_pure _).symm.trans h
        exact .ok exception
      | raised e =>
        obtain ⟨m, message, rfl⟩ := (consume_map_eq_ok text).1 h
        exact .raised exception message
      | serviceSpecific =>
        obtain ⟨m, q', message, h⟩ := (consume_bind_eq_ok text).1 h
        obtain ⟨k, number, rfl⟩ := (consume_map_eq_ok word).1 h
        exact .serviceSpecific exception message number
      | transactionFailed =>
        obtain ⟨m, q', message, h⟩ := (consume_bind_eq_ok text).1 h
        obtain ⟨k, reason, rfl⟩ := (consume_map_eq_ok word).1 h
        exact .transactionFailed exception message reason
  · intro h
    cases h with
    | ok exception =>
      refine (consume_bind_eq_ok word).2 ⟨_, _, exception, ?_⟩
      exact consume_pure _ _
    | raised exception message =>
      refine (consume_bind_eq_ok word).2 ⟨_, _, exception, ?_⟩
      rw [ExceptionCode.ofRaw?_raw]
      exact (consume_map_eq_ok text).2 ⟨_, message, rfl⟩
    | serviceSpecific exception message number =>
      refine (consume_bind_eq_ok word).2 ⟨_, _, exception, ?_⟩
      rw [ExceptionCode.ofRaw?_raw]
      refine (consume_bind_eq_ok text).2 ⟨_, _, message, ?_⟩
      exact (consume_map_eq_ok word).2 ⟨_, number, rfl⟩
    | transactionFailed exception message reason =>
      refine (consume_bind_eq_ok word).2 ⟨_, _, exception, ?_⟩
      rw [ExceptionCode.ofRaw?_raw]
      refine (consume_bind_eq_ok text).2 ⟨_, _, message, ?_⟩
      exact (consume_map_eq_ok word).2 ⟨_, reason, rfl⟩

end Parcel

namespace Status

/-- A status says nothing that does not go with its exception. -/
structure Coherent (s : Status) : Prop where
  isOk : s.isOk = true ↔ s = ok
  exception : s.isOk = true ↔ s.exception = .none
  fields : s = ok ↔ s.exception = .none ∧ s.transactionError = .ok ∧ s.serviceSpecificError = 0 ∧
    s.message = none
  transaction : s.transactionError ≠ .ok → s.exception = .transactionFailed
  specific : s.serviceSpecificError ≠ 0 → s.exception = .serviceSpecific
  kind : s.failureKind = none ↔ s.isOk = true

/-- And it says why a transaction failed. -/
structure Consistent (s : Status) : Prop extends s.Coherent where
  reason : s.exception = .transactionFailed → s.transactionError ≠ .ok

theorem coherent (s : Status) : s.Coherent where
  isOk := s.isOk_iff
  exception := decide_eq_true_iff
  fields := Status.ext_iff
  transaction reason := Decidable.not_not.1 (mt s.transactionError_of_ne reason)
  specific number := Decidable.not_not.1 (mt s.serviceSpecificError_of_ne number)
  kind := by rw [failureKind_eq_none_iff, isOk_iff]

theorem consistent_iff {s : Status} :
    s.Consistent ↔ ¬ (s.exception = .transactionFailed ∧ s.transactionError = .ok) :=
  ⟨fun h baseless => h.reason baseless.1 baseless.2,
    fun h => ⟨s.coherent, fun failed reason => h ⟨failed, reason⟩⟩⟩

theorem consistent_ofException (code : ExceptionCode) (message : Option String) :
    (ofException code message).Consistent := by
  cases code <;> simp [consistent_iff, ofException]

theorem consistent_ofCode (code : StatusCode) : (ofCode code).Consistent := by
  cases code <;> simp [consistent_iff, ofCode]

/-- Where a status can come from: it is made for an outcome, or it is read. -/
inductive Source
  | ok
  | exception (code : ExceptionCode) (message : Option String)
  | serviceSpecific (code : Int32) (message : Option String)
  | transport (code : StatusCode)
  | parcel (p : Parcel)

def Source.status : Source → Except StatusCode Status
  | ok => .ok .ok
  | exception code message => .ok (ofException code message)
  | serviceSpecific code message => .ok (.serviceSpecific code message)
  | transport code => .ok (ofCode code)
  | parcel p => (p.read .status).1

/-- A parcel with the parts of a failed transaction, and as its reason the number for all is well. -/
def Source.Baseless : Source → Prop
  | parcel p => ∃ q m q' q'',
      p.read .int32 = (.ok ExceptionCode.transactionFailed.raw, q) ∧
        q.read (.option .text) = (.ok m, q') ∧ q'.read .int32 = (.ok StatusCode.ok.raw, q'')
  | _ => False

theorem consistent_iff_of_states {p q : Parcel} {s : Status} (h : p.States s q) :
    s.Consistent ↔ ¬ (Source.parcel p).Baseless := by
  refine consistent_iff.trans (not_congr ?_)
  constructor
  · rintro ⟨failed, reason⟩
    cases h with
    | ok exception => cases failed
    | raised exception message => cases failed
    | serviceSpecific exception message number => cases failed
    | transactionFailed exception message given =>
      rw [StatusCode.ofRaw_eq_ok_iff.1 reason] at given
      exact ⟨_, _, _, _, exception, message, given⟩
  · rintro ⟨q₁, m, q₂, q₃, exception, message, given⟩
    -- The same parcel is read in one way only.
    have read := Parcel.read_status_iff.2 (.transactionFailed exception message given)
    rw [Parcel.read_status_iff.2 h] at read
    cases read
    exact ⟨rfl, StatusCode.ofRaw_raw .ok⟩

/-- A status from anywhere is consistent, except one that is read from the parts of a failed
transaction that gives no reason; and that one is coherent too. -/
theorem consistent_status (o : Source) {s : Status} (h : o.status = .ok s) :
    s.Coherent ∧ (s.Consistent ↔ ¬ o.Baseless) := by
  refine ⟨s.coherent, ?_⟩
  cases o with
  | ok =>
    cases h
    exact iff_of_true (consistent_ofCode .ok) not_false
  | exception code message =>
    cases h
    exact iff_of_true (consistent_ofException code message) not_false
  | serviceSpecific code message =>
    cases h
    exact iff_of_true (consistent_iff.2 fun baseless => nomatch baseless.1) not_false
  | transport code =>
    cases h
    exact iff_of_true (consistent_ofCode code) not_false
  | parcel p =>
    have read : p.read .status = (.ok s, (p.read .status).2) := Prod.ext h rfl
    exact consistent_iff_of_states (Parcel.read_status_iff.1 read)

/-- A remote that is gone, as a header says it that stands behind a byte. -/
theorem consistent_status_dead :
    let p : Parcel := ⟨[7] ++ [127, 255, 255, 255] ++ [0, 0, 0, 0] ++ [224, 255, 255, 255], [], 1,
      by decide⟩
    let s : Status := .transactionFailed .deadObject none
    (Source.parcel p).status = .ok s ∧ s.Coherent ∧ s.Consistent := by
  intro p s
  have read : (Source.parcel p).status = .ok s := rfl
  obtain ⟨coherent, consistent⟩ := consistent_status (.parcel p) read
  refine ⟨read, coherent, consistent.2 ?_⟩
  rintro ⟨q, m, q', q'', exception, message, reason⟩
  cases exception
  cases message
  cases reason

/-- A transaction failed, and the reason is that all is well. -/
theorem not_consistent_baseless :
    let p := Parcel.ofPayload ⟨[127, 255, 255, 255] ++ [0, 0, 0, 0] ++ [0, 0, 0, 0], []⟩
    ∃ s, (Source.parcel p).status = .ok s ∧ s.exception = .transactionFailed ∧
      s.transactionError = .ok ∧ ¬ s.Consistent := by
  intro p
  refine ⟨.transactionFailed .ok none, rfl, rfl, rfl, fun h => ?_⟩
  exact h.reason rfl rfl

end Status

end ServiceBus
