import ServiceBus.Proofs.Call.Exchange
import ServiceBus.Proofs.Call.Growth

/-!
A tuner behind a binder is as good as the tuner itself. Whoever calls a method through the binder
has the implementation called once, with the same arguments, and is given what it gives.
-/
namespace ServiceBus

open Wire

theorem handler_publish (host : Host) {i : Interface} (made : Bus) (p : Peer i) :
    (made.publish p).1.handler host = serve i (p.call host) := by
  cases p <;> rfl

namespace Reply

/-- An outcome that can be written: one without a text, list or map that is too long. -/
def Short : (r : Reply) → r.Outcome → Prop
  | value t, v => t.Short v
  | session, _ => True

theorem accepts_result {t : WireType false} {v : t.Val} {P : Prop}
    (h : (t.codec.write v).Accepts P) : (Writer.result t.codec (.ok v)).Accepts P :=
  ((Codec.accepts_status .ok).append h).congr (and_iff_right fun _ h => nomatch h)

end Reply

namespace Method

variable (m : Method .tuner) (a : m.Outcome) (s : Bus)

theorem tuner_present : (m.reply.present a s).2 = s := by
  cases m <;> rfl

theorem tuner_accept (v : m.reply.wire.Val) : (m.reply.accept v s).2 = s := by
  cases m <;> rfl

/-- The outcomes of a tuner are plain values: what is sent is what is received. -/
theorem tuner_accept_present (s' : Bus) :
    m.reply.accept (m.reply.present a s).1 s' = (.ok a, s') := by
  cases m <;> rfl

theorem tuner_accepts_present :
    (m.reply.wire.codec.write (m.reply.present a s).1).Accepts (m.reply.Short a) := by
  cases m <;> exact WireType.accepts _ rfl a

end Method

/-- Calling a tuner through a connection to a binder that was made for it, if the binder lives to
see the end: the bus is left as by the one call of the tuner itself, and the outcome is the tuner's,
unless it is too long to be sent. -/
theorem call_publish (host : Host) (made s : Bus) (p : Peer .tuner) (c : Connection .tuner)
    (m : Method .tuner) (args : m.Args) (target : c.remote = (made.publish p).1)
    (short : Vals.Short m.params args) (alive : s.isAlive c.remote = true)
    (survives : (p.call host m args (s.deliver c.remote m args)).2.isAlive c.remote = true) :
    let given := p.call host m args (s.deliver c.remote m args)
    let got := c.call host m args s
    got.2 = given.2 ∧
      (∀ a, given.1 = .ok a → m.reply.Short a → got.1 = .ok a) ∧
      (∀ a, given.1 = .ok a → ¬ m.reply.Short a → got.1 = .error (.ofCode .badValue)) ∧
      (∀ e, given.1 = .error e → e ≠ .ok → e.Short → got.1 = .error e) ∧
      (∀ e, given.1 = .error e → ¬ e.Short → got.1 = .error (.ofCode .badValue)) ∧
      ∀ servant, p = .hosted servant →
        got.2.events = s.events ++ [.filled c.remote m.code,
          .handled c.remote m.code (m.request args), .invoked servant m args] := by
  have hc : c.call host m args s = requestVia c.remote (serve .tuner (p.call host)) m args s := by
    rw [Connection.call, ← handler_publish host made p, ← target]
  have hbus : (c.call host m args s).2 = (p.call host m args (s.deliver c.remote m args)).2 := by
    rw [hc, requestVia_bus rfl _ short alive fun v s => m.tuner_accept s v,
      serve_bus rfl _ short _ fun a s => m.tuner_present a s]
  rcases hd : p.call host m args (s.deliver c.remote m args) with ⟨r, s'⟩
  rw [hd] at hbus survives
  refine ⟨hbus, ?_, ?_, ?_, ?_, ?_⟩
  · rintro a rfl hs
    have hp : m.reply.present a s' = ((m.reply.present a s').1, s') :=
      Prod.ext rfl (m.tuner_present a s')
    obtain ⟨x, hx⟩ := (Reply.accepts_result (m.tuner_accepts_present a s')).adds hs ⟨0, 0⟩
    rw [hc, requestVia_serve_ok rfl short alive hd hp survives hx, m.tuner_accept_present]
  · rintro a rfl hs
    have hx := (Reply.accepts_result (m.tuner_accepts_present a s')).refuses hs ⟨0, 0⟩
    rw [hc, requestVia_serve_refused rfl short alive hd rfl hx]
  · rintro e rfl hn hs
    rw [hc, requestVia_serve_error rfl short alive hd survives hs hn]
  · rintro e rfl hs
    have hx := (Codec.accepts_status e).refuses hs ⟨0, 0⟩
    rw [hc, requestVia_serve_refused rfl short alive hd rfl hx]
  · rintro servant rfl
    have he := host.run_events servant m args (s.deliver c.remote m args)
    have hr : host.run servant m args (s.deliver c.remote m args) = (r, s') := hd
    rw [hbus, ← congrArg Prod.snd hr, he, Bus.deliver_events, List.append_assoc]
    rfl

/-- A tuner that is busy, asked for all programs of an empty filter. -/
theorem call_publish_busy :
    let busy : Status := .serviceSpecific 7 (some "busy")
    let host : Host :=
      ⟨fun _ _ _ _ _ => ⟨.error busy, 0, []⟩, fun _ _ _ _ => ⟨.ok .empty, 0, []⟩, fun _ _ _ => none⟩
    let made := Bus.empty.publish (.hosted 5 : Peer .tuner)
    let c : Connection .tuner := ⟨0, made.1⟩
    let args : Method.getProgramList.Args := (some ∅, ())
    let got := c.call host .getProgramList args made.2
    let code := Method.getProgramList.code
    got.1 = .error busy ∧
      got.2.events = [.filled made.1 code, .handled made.1 code (Method.getProgramList.request args),
        .invoked 5 .getProgramList args] := by
  intro busy host made c args got code
  have short : Vals.Short Method.getProgramList.params args := by
    refine ⟨fun f hf => ?_, trivial⟩
    cases hf
    exact ⟨Nat.zero_le _, fun e he => absurd he List.not_mem_nil⟩
  have h := call_publish host Bus.empty made.2 (.hosted 5) c .getProgramList args rfl short rfl rfl
  obtain ⟨-, -, -, failed, -, events⟩ := h
  have busyShort : busy.Short := by
    intro text ht
    cases ht
    show "busy".utf8ByteSize ≤ maxLength
    decide
  have same := failed busy rfl (by decide) busyShort
  have seen := events 5 rfl
  exact ⟨same, seen.trans (List.nil_append _)⟩

end ServiceBus
