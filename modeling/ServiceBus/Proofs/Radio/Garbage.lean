import ServiceBus.Proofs.Call.Faults
import ServiceBus.Proofs.Radio.Eviction

/-!
A binder that is alive cannot be mistaken for one that is gone, whatever it sends. It can say itself
that it is, or pass that on from elsewhere. A reply that is none of the method's is a failure like
any other, and costs no handle its connection.
-/
namespace ServiceBus

open World Wire

/-- A handler tells that the other side is gone: it fails so, or its reply says that the method
did. -/
inductive Reaction.TellsGone (left : Reaction) : Prop
  | failed {e : StatusCode} (gone : e.Gone) (failed : left.result = .error e)
  | told {code : StatusCode} {message : Option String} {q : Parcel} (gone : code.Gone)
      (replied : left.result = .ok ())
      (header : (Parcel.ofPayload left.reply).read .status =
        (.ok (.transactionFailed code message), q))

theorem outOfReach_iff {i : Interface} {b : Binder} {handle : Handler} {m : Method i}
    {args : m.Args} {s : Bus} (h : Attended b handle m args s) :
    OutOfReach (requestVia b handle m args s).1 ↔ Vals.Short m.params args ∧
      (handle m.code (m.request args) (s.deliver b m args)).1.TellsGone := by
  constructor
  · rintro ⟨e, hr, kind⟩
    cases faults_of_requestVia h hr with
    | unsent long => cases kind
    | failed short failed =>
      exact ⟨short, .failed ((Status.unreachable_ofCode_iff _).1 kind) failed⟩
    | garbled short replied garbled => cases garbled.kind.symm.trans kind
    | told short replied header fails =>
      obtain ⟨code, message, gone, rfl⟩ := e.unreachable_iff.1 kind
      exact ⟨short, .told gone replied header⟩
  · rintro ⟨short, tells⟩
    cases tells with
    | failed gone failed =>
      exact ⟨_, (Faults.failed short failed).requestVia h, (Status.unreachable_ofCode_iff _).2 gone⟩
    | told gone replied header =>
      exact ⟨_, (Faults.told short replied header nofun).requestVia h,
        (Status.unreachable_iff _).2 ⟨_, _, gone, rfl⟩⟩

/-- A call that is answered with something that is no reply of the method, by a binder that is alive
and stays so. -/
structure Connection.Garbles (host : Host) {i : Interface} (c : Connection i) (m : Method i)
    (args : m.Args) (s : Bus) : Prop where
  attended : Attended c.remote (c.remote.handler host) m args s
  short : Vals.Short m.params args
  replied :
    (c.remote.handler host m.code (m.request args) (s.deliver c.remote m args)).1.result = .ok ()
  garbled : ∃ e,
    m.Garbled (c.remote.handler host m.code (m.request args) (s.deliver c.remote m args)).1.reply e

theorem Connection.Garbles.call {host : Host} {i : Interface} {c : Connection i} {m : Method i}
    {args : m.Args} {s : Bus} (h : c.Garbles host m args s) :
    ∃ e s', c.call host m args s = (.error e, s') ∧ e.failureKind = some .other := by
  obtain ⟨e, garbled⟩ := h.garbled
  exact ⟨.ofCode e, (c.call host m args s).2,
    Prod.ext ((Faults.garbled h.short h.replied garbled).requestVia h.attended) rfl, garbled.kind⟩

/-- A failure that does not tell anything in particular. -/
def Surface.fault : (s : Surface) → Status → s.Failure
  | .status, _ => .error
  | .value, e => .remote e

theorem not_unreachable_of_other {e : Status} (h : e.failureKind = some .other) :
    e.failureKind ≠ some .unreachable := by
  rw [h]
  exact nofun

namespace Session

theorem fail_fault (x : Session) {s : Surface} {t : WireType false} (op : Operation s t)
    {e : Status} (h : e.failureKind = some .other) (w : World) :
    (x.fail op e w).1 = .error (s.fault e) := by
  have hk : e.failureKind.getD .other = .other := by rw [h, Option.getD_some]
  simp only [fail, hk]
  cases s <;> rfl

theorem close_handles_of_reached {host : Host} {x : Session} {w : World} {e : Status} {s' : Bus}
    (opened : x.closed = false) (answered : x.tuner.call host .close () w.bus = (.error e, s'))
    (h : e.failureKind ≠ some .unreachable) : (x.close host w).2.handles = w.handles := by
  obtain ⟨w', -, handles, hw⟩ := close_of_error opened answered
  rw [hw]
  exact (congrArg World.handles (if_neg (mt e.isUnreachable_iff.1 h))).trans handles

end Session

namespace RadioManager

variable {host : Host} {r : HandleRef .radio} {w w₁ : World} {c : Connection .radio} {e : Status}
  {s' : Bus}

theorem listModules_of_error (resolved : w.resolve host r = (some c, w₁))
    (answered : c.call host .listModules () w₁.bus = (.error e, s'))
    (h : e.failureKind ≠ some .unreachable) :
    ∃ w', w'.handles = w₁.handles ∧ listModules host ⟨r⟩ w = (.error .error, w') := by
  refine ⟨({ w₁ with bus := s' } : World).say .error ("Failed to list modules: " ++ e.render),
    rfl, ?_⟩
  simp only [listModules, resolved, onBus, answered]
  exact if_neg (mt e.isUnreachable_iff.1 h)

theorem openTuner_of_error {module : Int32} {config : Option BandConfig} {withAudio : Bool}
    (valid : ∀ b ∈ config, b.isValid = true) (resolved : w.resolve host r = (some c, w₁))
    (answered : c.call host .openTuner (module, config, withAudio, ()) w₁.bus = (.error e, s'))
    (h : e.failureKind ≠ some .unreachable) :
    ∃ w', w'.handles = w₁.handles ∧
      openTuner host ⟨r⟩ module config withAudio w = (none, w') := by
  have hf := BandConfig.filter_not_isValid_eq_none_iff.2 valid
  refine ⟨({ w₁ with bus := s' } : World).say .error
    ("Failed to open tuner on module " ++ toString module ++ ": " ++ e.render), rfl, ?_⟩
  simp only [openTuner, hf, resolved, onBus, answered]
  exact congrArg (Prod.mk none) (if_neg (mt e.isUnreachable_iff.1 h))

end RadioManager

/-- What a binder that is alive can make its callers believe. A call of it looks as if it were gone
just if its handler tells so. Whatever else it sends in place of a reply, an operation fails with
the plain failure of its kind, a manager lists no modules and opens no tuner, and the session and
all handles keep what they have. -/
theorem outOfReach_call (host : Host) :
    (∀ {i : Interface} (c : Connection i) (m : Method i) (args : m.Args) (s : Bus),
      Attended c.remote (c.remote.handler host) m args s →
      (OutOfReach (c.call host m args s).1 ↔ Vals.Short m.params args ∧
        (c.remote.handler host m.code (m.request args) (s.deliver c.remote m args)).1.TellsGone)) ∧
    (∀ (x : Session) (c : Connection .tuner) (w : World), x.tuner = .remote c → x.closed = false →
      (∀ {s : Surface} {t : WireType false} (op : Operation s t) (request : TunerRequest t),
        op.request x.band = .ok request → c.Garbles host request.method request.args w.bus →
        let after := x.perform host op w
        (∃ e, (c.call host request.method request.args w.bus).1 = .error e ∧
          after.1 = .error (s.fault e)) ∧
        after.2.1 = x ∧ after.2.2.handles = w.handles) ∧
      (c.Garbles host .close () w.bus → (x.close host w).2.handles = w.handles)) ∧
    (∀ (r : HandleRef .radio) (w w₁ : World) (c : Connection .radio),
      w.resolve host r = (some c, w₁) →
      (c.Garbles host .listModules () w₁.bus →
        let after := RadioManager.listModules host ⟨r⟩ w
        after.1 = .error .error ∧ after.2.handles = w₁.handles ∧ after.2.cached? r = some c) ∧
      (∀ module config withAudio, (∀ b ∈ config, b.isValid = true) →
        c.Garbles host .openTuner (module, config, withAudio, ()) w₁.bus →
        let after := RadioManager.openTuner host ⟨r⟩ module config withAudio w
        after.1 = none ∧ after.2.handles = w₁.handles ∧ after.2.cached? r = some c)) := by
  refine ⟨fun c m args s h => outOfReach_iff h, fun x c w remote opened => ⟨?_, ?_⟩,
    fun r w w₁ c resolved => ⟨?_, ?_⟩⟩
  · intro s t op request asked garbles
    obtain ⟨e, s', answered, kind⟩ := garbles.call
    have called : x.tuner.call host request.method request.args w.bus = (.error e, s') := by
      rw [remote]
      exact answered
    dsimp only
    rw [Session.perform_of_error opened asked called]
    exact ⟨⟨e, congrArg Prod.fst answered, x.fail_fault op kind _⟩, rfl,
      x.fail_handles_of_reached op _ (not_unreachable_of_other kind)⟩
  · intro garbles
    obtain ⟨e, s', answered, kind⟩ := garbles.call
    have called : x.tuner.call host .close () w.bus = (.error e, s') := by
      rw [remote]
      exact answered
    exact Session.close_handles_of_reached opened called (not_unreachable_of_other kind)
  all_goals
    have cached : w₁.cached? r = some c := by
      have h := cached?_resolve host w r
      rwa [resolved] at h
  · intro garbles
    obtain ⟨e, s', answered, kind⟩ := garbles.call
    obtain ⟨w', handles, hw⟩ :=
      RadioManager.listModules_of_error resolved answered (not_unreachable_of_other kind)
    dsimp only
    rw [hw]
    exact ⟨rfl, handles, (cached?_congr handles r).trans cached⟩
  · intro module config withAudio valid garbles
    obtain ⟨e, s', answered, kind⟩ := garbles.call
    obtain ⟨w', handles, hw⟩ :=
      RadioManager.openTuner_of_error valid resolved answered (not_unreachable_of_other kind)
    dsimp only
    rw [hw]
    exact ⟨rfl, handles, (cached?_congr handles r).trans cached⟩

/-- A tuner and a radio service that answer everything with one byte. -/
theorem outOfReach_call_truncated :
    let host : Host :=
      ⟨fun _ _ _ _ _ => ⟨.error .ok, 0, []⟩, fun _ _ _ _ => ⟨.ok ⟨[9], []⟩, 0, []⟩,
       fun _ _ _ => none⟩
    let c : Connection .tuner := ⟨2, .custom 0 Interface.tuner.descriptor 7⟩
    let d : Connection .radio := ⟨1, .custom 1 Interface.radio.descriptor 7⟩
    let r : HandleRef .radio := ⟨0⟩
    let handles : Handles := ⟨[], [⟨"broadcastradio", .registry 0, some d⟩], []⟩
    let w : World := ⟨⟨[true, true], 3, [], []⟩, [], handles⟩
    let x : Session := ⟨.remote c, false, none, some (r, d)⟩
    let muted := x.perform host .getMute w
    let listed := RadioManager.listModules host ⟨r⟩ w
    let opened := RadioManager.openTuner host ⟨r⟩ 0 none false w
    ¬ OutOfReach (c.call host .isMuted () w.bus).1 ∧
      muted.1 = .error (.remote (.ofCode .notEnoughData)) ∧ muted.2.2.cached? r = some d ∧
      (x.close host w).2.cached? r = some d ∧
      listed.1 = .error .error ∧ listed.2.cached? r = some d ∧
      opened.1.isNone ∧ opened.2.cached? r = some d := by
  intro host c d r handles w x muted listed opened
  have header : (Parcel.ofPayload ⟨[9], []⟩).read .status =
    (.error .notEnoughData, .ofPayload ⟨[9], []⟩) := rfl
  have garbled : ∀ {i : Interface} (m : Method i), m.Garbled ⟨[9], []⟩ .notEnoughData :=
    fun m => .header header
  have asked : c.Garbles host .isMuted () w.bus :=
    ⟨⟨rfl, rfl, by decide +kernel⟩, trivial, rfl, _, garbled _⟩
  have closes : c.Garbles host .close () w.bus :=
    ⟨⟨rfl, rfl, by decide +kernel⟩, trivial, rfl, _, garbled _⟩
  have lists : d.Garbles host .listModules () w.bus :=
    ⟨⟨rfl, rfl, by decide +kernel⟩, trivial, rfl, _, garbled _⟩
  have opens : d.Garbles host .openTuner (0, none, false, ()) w.bus :=
    ⟨⟨rfl, rfl, by decide +kernel⟩, ⟨trivial, nofun, trivial, trivial⟩, rfl, _, garbled _⟩
  obtain ⟨gone, session, manager⟩ := outOfReach_call host
  obtain ⟨performs, releases⟩ := session x c w rfl rfl
  obtain ⟨⟨e, failed, told⟩, -, kept⟩ := performs .getMute ⟨.isMuted, (), id⟩ rfl asked
  have resolved : w.resolve host r = (some d, w) := resolve_of_cached host rfl
  obtain ⟨listing, opening⟩ := manager r w w d resolved
  obtain ⟨noModules, -, hasListed⟩ := listing lists
  obtain ⟨noTuner, -, hasOpened⟩ := opening 0 none false nofun opens
  cases failed.symm.trans ((Faults.garbled asked.short rfl (garbled _)).requestVia asked.attended)
  refine ⟨fun h => ?_, told, cached?_congr kept r, cached?_congr (releases closes) r, noModules,
    hasListed, Option.isNone_iff_eq_none.2 noTuner, hasOpened⟩
  cases ((gone c .isMuted () w.bus asked.attended).1 h).2 with
  | failed gone failed => cases failed
  | told gone replied read => cases header.symm.trans read

end ServiceBus
