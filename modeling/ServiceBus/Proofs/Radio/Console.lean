import ServiceBus.Radio.Manager
import ServiceBus.Proofs.Handle.Caching

/-!
Everything that may happen around a handle of the radio service, one step at a time and in any
order: the radio is asked and tuners are opened through the handle, the tuners are used and given
up, the handle is used by itself, and services come, register and die. Managers that share a handle
are the same manager.
-/
namespace ServiceBus

/-- A step. Sessions are named by their place in the list of those that are still held. -/
inductive Command
  | listModules
  | openTuner (module : Int32) (config : Option BandConfig) (withAudio : Bool)
  | perform (session : Nat) {s : Surface} {t : WireType false} (op : Operation s t)
  | close (session : Nat)
  | drop (session : Nat)
  | resolve
  | invalidate
  | invalidateIf (stale : Peer .radio)
  | publish {i : Interface} (service : Peer i)
  | publishHandler (descriptor : String) (handler : ServantId)
  | kill (b : Binder)
  | register (registry : Nat) (name : String) (b : Binder)
  | check (registry : Nat) (name : String)

structure Console where
  world : World
  sessions : List Session

namespace Console

def onWorld (st : Console) (w : World) : Console := { st with world := w }

def onSession (st : Console) (k : Nat) (f : Session → Console) : Console :=
  match st.sessions[k]? with
  | none => st
  | some x => f x

theorem onSession_cases {P : Console → Prop} {st : Console} {k : Nat} {f : Session → Console}
    (none : st.sessions[k]? = none → P st) (some : ∀ x, st.sessions[k]? = some x → P (f x)) :
    P (st.onSession k f) := by
  unfold onSession
  cases h : st.sessions[k]? with
  | none => exact none h
  | some x => exact some x h

/-- A session that is dropped is closed first. -/
def step (host : Host) (r : HandleRef .radio) (st : Console) : Command → Console
  | .listModules => st.onWorld (RadioManager.listModules host ⟨r⟩ st.world).2
  | .openTuner module config withAudio =>
    match RadioManager.openTuner host ⟨r⟩ module config withAudio st.world with
    | (x, w) => ⟨w, st.sessions ++ x.toList⟩
  | .perform k op => st.onSession k fun x =>
    match x.perform host op st.world with
    | (_, x, w) => ⟨w, st.sessions.set k x⟩
  | .close k => st.onSession k fun x =>
    match x.close host st.world with
    | (x, w) => ⟨w, st.sessions.set k x⟩
  | .drop k => st.onSession k fun x =>
    ⟨(x.close host st.world).2, st.sessions.eraseIdx k⟩
  | .resolve => st.onWorld (st.world.resolve host r).2
  | .invalidate => st.onWorld (st.world.invalidate r)
  | .invalidateIf stale => st.onWorld (st.world.invalidateIf r stale)
  | .publish service => st.onWorld (st.world.onBus fun s => s.publish service).2
  | .publishHandler descriptor handler =>
    st.onWorld (st.world.onBus fun s => s.publishHandler descriptor handler).2
  | .kill b => st.onWorld (st.world.onBus fun s => ((), s.kill b)).2
  | .register registry name b =>
    st.onWorld (st.world.onRegistry registry fun g s => g.add name b s).2
  | .check registry name => st.onWorld (st.world.onRegistry registry fun g s => g.check name s).2

def run (host : Host) (r : HandleRef .radio) (st : Console) (commands : List Command) : Console :=
  commands.foldl (step host r) st

@[simp] theorem run_append (host : Host) (r : HandleRef .radio) (st : Console)
    (before after : List Command) :
    run host r st (before ++ after) = run host r (run host r st before) after :=
  List.foldl_append

end Console

end ServiceBus
