import ServiceBus.Call
import ServiceBus.Proofs.Registry.Living

/-!
A registry is as good as a plain map that keeps, for every name, the binder that was last registered
under it. The map never removes anything; it answers with the binder if it is alive. Whoever asks the
registry gets the answers of the map, whatever was asked before and whoever has died meanwhile.
-/
namespace ServiceBus

/-- What can be asked of a registry, and what can become of binders between two questions and while
somebody waits. -/
inductive Request
  | add (name : String) (b : Binder)
  | check (name : String)
  | get (name : String)
  | wait (name : String) (dying : List Binder)
  | list
  | isDeclared (name : String)
  | getInterface (i : Interface) (name : String)
  | kill (b : Binder)
  | publish {i : Interface} (service : Peer i)
  | publishHandler (descriptor : String) (handler : ServantId)

namespace Request

@[reducible] def Answer : Request → Type
  | add _ _ => Except StatusCode Unit
  | check _ => Option Binder
  | get _ => Option Binder
  | wait _ _ => Option Binder
  | list => List String
  | isDeclared _ => Bool
  | getInterface i _ => Except StatusCode (Connection i)
  | kill _ => Unit
  | publish _ => Binder
  | publishHandler _ _ => Binder

variable {σ : Type}

def answers (ask : σ → (q : Request) → q.Answer × σ) (a : σ) :
    List Request → List ((q : Request) × q.Answer)
  | [] => []
  | q :: qs => ⟨q, (ask a q).1⟩ :: answers ask (ask a q).2 qs

def after (ask : σ → (q : Request) → q.Answer × σ) (a : σ) (qs : List Request) : σ :=
  qs.foldl (fun a q => (ask a q).2) a

/-- Two states of which one step gives the same answer and leads to two such states again give the
same answers for ever. -/
theorem answers_eq {τ : Type} {ask : σ → (q : Request) → q.Answer × σ}
    {ask' : τ → (q : Request) → q.Answer × τ} {R : σ → τ → Prop}
    (step : ∀ a b q, R a b → (ask a q).1 = (ask' b q).1 ∧ R (ask a q).2 (ask' b q).2)
    {a : σ} {b : τ} (h : R a b) (qs : List Request) :
    answers ask a qs = answers ask' b qs ∧ R (after ask a qs) (after ask' b qs) := by
  induction qs generalizing a b with
  | nil => exact ⟨rfl, h⟩
  | cons q qs ih =>
    obtain ⟨same, h'⟩ := step a b q h
    obtain ⟨rest, last⟩ := ih h'
    refine ⟨?_, last⟩
    rw [answers, answers, same, rest]

end Request

open Request

/-- Looks a name up, and if nothing is found once more when the time is over. -/
def Registry.await (r : Registry) (name : String) (dying : List Binder) (s : Bus) :
    Option Binder × Bus :=
  match r.find? s name with
  | some b => (some b, s)
  | none => (r.wait name (dying.foldl Bus.kill s), dying.foldl Bus.kill s)

def World.ask (host : Host) (id : Nat) (w : World) : (q : Request) → q.Answer × World
  | .add name b => w.onRegistry id fun r s => r.add name b s
  | .check name => w.onRegistry id fun r s => r.check name s
  | .get name => w.lookup host (.registry id) name
  | .wait name dying => w.onBus fun s => (w.registry id).await name dying s
  | .list => ((w.registry id).names w.bus, w)
  | .isDeclared name => w.onRegistry id fun r s => r.isDeclared name s
  | .getInterface i name => w.onRegistry id fun r s => r.getInterface i name s
  | .kill b => w.onBus fun s => ((), s.kill b)
  | .publish service => w.onBus fun s => s.publish service
  | .publishHandler descriptor handler => w.onBus fun s => s.publishHandler descriptor handler

/-- The binder that was last registered under each name. -/
structure Ledger where
  last : TextMap Binder
  bus : Bus

namespace Ledger

def find? (k : Ledger) (name : String) : Option Binder := k.last[name]?.filter k.bus.isAlive

def names (k : Ledger) : List String := (living k.last k.bus.isAlive).keys

def onBus {α : Type} (k : Ledger) (f : Bus → α × Bus) : α × Ledger :=
  match f k.bus with
  | (a, s) => (a, { k with bus := s })

/-- The specification: only a registration changes the map, and nothing is ever removed from it. -/
def ask (k : Ledger) : (q : Request) → q.Answer × Ledger
  | .add name b =>
    if name = "" ∨ k.bus.isAlive b = false then (.error .badValue, k)
    else (.ok (), { k with last := k.last.insert name b })
  | .check name => (k.find? name, k)
  | .get name => (k.find? name, k)
  | .wait name dying =>
    match k.find? name with
    | some b => (some b, k)
    | none => k.onBus fun s => (none, dying.foldl Bus.kill s)
  | .list => (k.names, k)
  | .isDeclared name => ((k.find? name).isSome, k)
  | .getInterface i name =>
    match k.find? name with
    | none => (.error .nameNotFound, k)
    | some b => k.onBus fun s => s.connect i b
  | .kill b => k.onBus fun s => ((), s.kill b)
  | .publish service => k.onBus fun s => s.publish service
  | .publishHandler descriptor handler => k.onBus fun s => s.publishHandler descriptor handler

end Ledger

theorem Ledger.find?_foldl_kill {k : Ledger} {name : String} (missing : k.find? name = none)
    (dying : List Binder) : (Ledger.mk k.last (dying.foldl Bus.kill k.bus)).find? name = none := by
  induction dying generalizing k with
  | nil => exact missing
  | cons b dying ih =>
    have dead : ∀ d, k.last[name]? = some d → k.bus.isAlive d = false := by
      simpa [Ledger.find?] using missing
    refine ih (k := ⟨k.last, k.bus.kill b⟩) (Option.filter_eq_none_iff.2 fun d found => ?_)
    rw [Bus.isAlive_kill, dead d found]
    exact Bool.false_ne_true

namespace Registry

variable {r : Registry} {s : Bus}

theorem find?_eq_living (r : Registry) (s : Bus) (name : String) :
    r.find? s name = (living r.services s.isAlive)[name]? :=
  (getElem?_living r.services s.isAlive name).symm

theorem names_eq_living (r : Registry) (s : Bus) :
    r.names s = (living r.services s.isAlive).keys := by
  rw [← Std.ExtTreeMap.map_fst_toList_eq_keys, living, Std.ExtTreeMap.toList_filter]
  rfl

theorem check_spec (known : Known r.services s) (name : String) :
    ∃ r' s', r.check name s = (r.find? s name, r', s') ∧ s'.live = s.live ∧
      s'.connections = s.connections ∧
      living r'.services s.isAlive = living r.services s.isAlive ∧ Known r'.services s := by
  have answer := r.check_fst name s
  unfold check at answer ⊢
  cases found : r.services[name]? with
  | none =>
    simp only [found] at answer
    exact ⟨r, s, by rw [← answer], rfl, rfl, rfl, known⟩
  | some b =>
    simp only [found] at answer
    cases alive : s.isAlive b with
    | true =>
      simp only [alive, if_true] at answer ⊢
      exact ⟨r, s, by rw [← answer], rfl, rfl, rfl, known⟩
    | false =>
      simp only [alive, Bool.false_eq_true, if_false] at answer ⊢
      exact ⟨⟨r.services.erase name⟩, s.say _ _, by rw [← answer], rfl, rfl,
        living_erase found alive, known.erase name⟩

theorem add_of_refused (r : Registry) {name : String} {b : Binder} {s : Bus}
    (h : name = "" ∨ s.isAlive b = false) : r.add name b s = (.error .badValue, r, s) := by
  have refused : (name.isEmpty || !s.isAlive b) = true := by
    simpa using h
  rw [add, if_pos refused]

theorem add_of_accepted (r : Registry) {name : String} {b : Binder} {s : Bus}
    (h : ¬ (name = "" ∨ s.isAlive b = false)) :
    s.isAlive b = true ∧ ∃ s', r.add name b s = (.ok (), ⟨r.services.insert name b⟩, s') ∧
      s'.live = s.live ∧ s'.connections = s.connections := by
  have accepted : ¬ (name.isEmpty || !s.isAlive b) = true := by
    simpa using h
  refine ⟨eq_true_of_ne_false fun dead => h (.inr dead), ?_⟩
  rw [add, if_neg accepted]
  split
  · exact ⟨s.say _ _, rfl, rfl, rfl⟩
  · exact ⟨s, rfl, rfl, rfl⟩

end Registry

/-- The map stands for the registry: they agree on what is living. -/
structure Refines (id : Nat) (w : World) (k : Ledger) : Prop where
  present : id < w.registries.length
  live : k.bus.live = w.bus.live
  connections : k.bus.connections = w.bus.connections
  same : living (w.registry id).services w.bus.isAlive = living k.last w.bus.isAlive
  registered : Known (w.registry id).services w.bus
  recorded : Known k.last w.bus

namespace Refines

variable {id : Nat} {w : World} {k : Ledger}

theorem isAlive (h : Refines id w k) : k.bus.isAlive = w.bus.isAlive :=
  funext (Bus.isAlive_congr h.live)

theorem find? (h : Refines id w k) (name : String) :
    (w.registry id).find? w.bus name = k.find? name := by
  rw [Registry.find?_eq_living, h.same, getElem?_living, Ledger.find?, h.isAlive]

theorem names (h : Refines id w k) : (w.registry id).names w.bus = k.names := by
  rw [Registry.names_eq_living, h.same, Ledger.names, h.isAlive]

theorem kill (h : Refines id w k) (b : Binder) :
    Refines id { w with bus := w.bus.kill b } { k with bus := k.bus.kill b } where
  present := h.present
  live := congrArg (·.set b.id false) h.live
  connections := h.connections
  same := living_kill b h.same
  registered := h.registered.mono (Nat.le_of_eq List.length_set.symm)
  recorded := h.recorded.mono (Nat.le_of_eq List.length_set.symm)

theorem foldl_kill (h : Refines id w k) (dying : List Binder) :
    Refines id { w with bus := dying.foldl Bus.kill w.bus }
      { k with bus := dying.foldl Bus.kill k.bus } := by
  induction dying generalizing w k with
  | nil => exact h
  | cons b dying ih => exact ih (h.kill b)

theorem onBus (h : Refines id w k) {s t : Bus} (live : t.live = s.live)
    (connections : t.connections = s.connections) (more : w.bus.live.length ≤ s.live.length)
    (same : living (w.registry id).services s.isAlive = living k.last s.isAlive) :
    Refines id { w with bus := s } { k with bus := t } where
  present := h.present
  live := live
  connections := connections
  same := same
  registered := h.registered.mono more
  recorded := h.recorded.mono more

theorem onRegistry (h : Refines id w k) {r : Registry} {s : Bus} {last : TextMap Binder}
    (live : s.live = w.bus.live) (connections : s.connections = w.bus.connections)
    (same : living r.services w.bus.isAlive = living last w.bus.isAlive)
    (registered : Known r.services w.bus) (recorded : Known last w.bus) :
    Refines id { w with bus := s, registries := w.registries.set id r } { k with last := last } := by
  let w' : World := { w with bus := s, registries := w.registries.set id r }
  have mine : w'.registry id = r := by
    simp [w', World.registry, h.present]
  have alive : s.isAlive = w.bus.isAlive := funext (Bus.isAlive_congr live)
  have length : w.bus.live.length ≤ s.live.length := Nat.le_of_eq (congrArg _ live.symm)
  exact {
    present := by
      rw [List.length_set]
      exact h.present
    live := h.live.trans live.symm
    connections := h.connections.trans connections.symm
    same := by
      rw [mine, alive]
      exact same
    registered := by
      rw [mine]
      exact registered.mono length
    recorded := recorded.mono length }

theorem spawn (h : Refines id w k) :
    Refines id { w with bus := w.bus.spawn.2 } { k with bus := k.bus.spawn.2 } := by
  have same : living (w.registry id).services w.bus.spawn.2.isAlive =
      living k.last w.bus.spawn.2.isAlive := by
    rw [living_spawn h.registered, living_spawn h.recorded, h.same]
  have more : w.bus.live.length ≤ w.bus.spawn.2.live.length := by
    simp [Bus.spawn]
  exact h.onBus (congrArg (· ++ [true]) h.live) h.connections more same

/-- A look-up: the map need not be touched for it. -/
theorem check (h : Refines id w k) (name : String) :
    ∃ r s, (w.registry id).check name w.bus = (k.find? name, r, s) ∧ s.live = w.bus.live ∧
      Refines id { w with bus := s, registries := w.registries.set id r } k := by
  obtain ⟨r, s, checked, live, connections, same, known⟩ := Registry.check_spec h.registered name
  rw [h.find? name] at checked
  exact ⟨r, s, checked, live,
    h.onRegistry live connections (same.trans h.same) known h.recorded⟩

theorem add (h : Refines id w k) (host : Host) (name : String) (b : Binder) :
    (w.ask host id (.add name b)).1 = (k.ask (.add name b)).1 ∧
      Refines id (w.ask host id (.add name b)).2 (k.ask (.add name b)).2 := by
  by_cases refused : name = "" ∨ w.bus.isAlive b = false
  · have added := (w.registry id).add_of_refused refused
    simp only [World.ask, World.onRegistry, added, Ledger.ask, h.isAlive, if_pos refused]
    exact ⟨trivial, h.onRegistry rfl rfl h.same h.registered h.recorded⟩
  · obtain ⟨alive, s, added, live, connections⟩ := (w.registry id).add_of_accepted refused
    simp only [World.ask, World.onRegistry, added, Ledger.ask, h.isAlive, if_neg refused]
    refine ⟨trivial, h.onRegistry live connections ?_ (h.registered.insert alive name)
      (h.recorded.insert alive name)⟩
    rw [living_insert alive, living_insert alive, h.same]

theorem ask (h : Refines id w k) (host : Host) (q : Request) :
    (w.ask host id q).1 = (k.ask q).1 ∧ Refines id (w.ask host id q).2 (k.ask q).2 := by
  cases q with
  | add name b => exact h.add host name b
  | check name =>
    obtain ⟨r, s, checked, -, refines⟩ := h.check name
    simp only [World.ask, World.onRegistry, checked]
    exact ⟨rfl, refines⟩
  | get name =>
    obtain ⟨r, s, checked, -, refines⟩ := h.check name
    simp only [World.ask, World.lookup, World.onRegistry, checked]
    exact ⟨rfl, refines.onBus refines.live refines.connections (Nat.le_refl _) refines.same⟩
  | wait name dying =>
    have found := h.find? name
    simp only [World.ask, World.onBus, Registry.await, found, Ledger.ask]
    cases missing : k.find? name with
    | some b => exact ⟨rfl, h⟩
    | none =>
      have later := h.foldl_kill dying
      exact ⟨(later.find? name).trans (k.find?_foldl_kill missing dying), later⟩
  | list => exact ⟨h.names, h⟩
  | isDeclared name =>
    obtain ⟨r, s, checked, -, refines⟩ := h.check name
    simp only [World.ask, World.onRegistry, Registry.isDeclared, checked]
    exact ⟨rfl, refines⟩
  | getInterface i name =>
    obtain ⟨r, s, checked, live, refines⟩ := h.check name
    simp only [World.ask, World.onRegistry, Registry.getInterface, checked, Ledger.ask]
    cases k.find? name with
    | none => exact ⟨rfl, refines⟩
    | some b =>
      -- Both sides number the new connection alike.
      have connections : k.bus.connections = s.connections := refines.connections
      simp only [Ledger.onBus, Bus.connect, connections]
      split
      · exact ⟨rfl, refines.onBus refines.live rfl (Nat.le_refl _) refines.same⟩
      · exact ⟨rfl, refines⟩
  | kill b => exact ⟨rfl, h.kill b⟩
  | publish service =>
    have born := h.spawn
    have number : k.bus.live.length = w.bus.live.length := congrArg List.length h.live
    cases service with
    | hosted servant => exact ⟨congrArg (Binder.native · _ servant) number.symm, born⟩
    | remote c => exact ⟨congrArg (Binder.relay · _ c.remote) number.symm, born⟩
  | publishHandler descriptor handler =>
    have number : k.bus.live.length = w.bus.live.length := congrArg List.length h.live
    exact ⟨congrArg (Binder.custom · descriptor handler) number.symm, h.spawn⟩

/-- What the map takes no notice of, nobody notices later. -/
theorem unnoticed (h : Refines id w k) (host : Host) {q : Request} (same : (k.ask q).2 = k)
    (more : List Request) :
    answers (World.ask host id) (w.ask host id q).2 more = answers (World.ask host id) w more := by
  have step : ∀ (w : World) (k : Ledger) q, Refines id w k → _ := fun w k q h => h.ask host q
  have next : Refines id (w.ask host id q).2 k := by
    have h' := (h.ask host q).2
    rwa [same] at h'
  rw [(answers_eq step next more).1, (answers_eq step h more).1]

theorem add_error_iff (h : Refines id w k) (host : Host) (name : String) (b : Binder)
    (e : StatusCode) : (w.ask host id (.add name b)).1 = .error e ↔
      e = .badValue ∧ (name = "" ∨ w.bus.isAlive b = false) := by
  rw [(h.add host name b).1, Ledger.ask, h.isAlive]
  split
  · next refused =>
    exact ⟨fun he => ⟨(Except.error.inj he).symm, refused⟩, fun he => congrArg _ he.1.symm⟩
  · next accepted => exact ⟨nofun, fun he => absurd he.2 accepted⟩

theorem mem_names_iff (h : Refines id w k) (name : String) :
    name ∈ k.names ↔ ∃ b, k.last[name]? = some b ∧ w.bus.isAlive b = true := by
  rw [Ledger.names, Std.ExtTreeMap.mem_keys, Std.ExtTreeMap.mem_iff_isSome_getElem?,
    getElem?_living, h.isAlive, Option.isSome_iff_exists]
  exact exists_congr fun b => Option.filter_eq_some_iff

end Refines

theorem Ledger.names_increasing (k : Ledger) : k.names.Pairwise (· < ·) := by
  have ordered : k.names.Pairwise fun a b => compare a b = .lt := Std.ExtTreeMap.ordered_keys
  exact ordered.imp compareOfLessAndEq_eq_lt.1

theorem Ledger.getInterface_spec (k : Ledger) (i : Interface) (name : String) :
    let got := k.ask (.getInterface i name)
    (got.1 = .error .nameNotFound ↔ k.find? name = none) ∧
      (got.1 = .error .badType ↔ ∃ b, k.find? name = some b ∧ b.descriptor ≠ i.descriptor) ∧
      (∀ c, got.1 = .ok c → k.find? name = some c.remote) ∧
      ∀ e, got.1 = .error e → got.2 = k := by
  simp only [Ledger.ask]
  cases k.find? name with
  | none => exact ⟨by simp, by simp, nofun, fun _ _ => rfl⟩
  | some b =>
    by_cases fits : b.descriptor = i.descriptor
    · simp only [Ledger.onBus, Bus.connect, if_pos fits]
      have remote : ∀ c : Connection i,
          (.ok ⟨k.bus.connections, b⟩ : Except StatusCode (Connection i)) = .ok c →
            some b = some c.remote := by
        rintro c ⟨⟩
        rfl
      exact ⟨by simp, by simp [fits], remote, nofun⟩
    · simp only [Ledger.onBus, Bus.connect, if_neg fits]
      exact ⟨by simp, by simp [fits], nofun, fun _ _ => trivial⟩

/-- A run of requests at a new registry. Every answer is the one of the map. From then on a look-up
finds what was last registered, if it is alive; what a look-up removes is not missed by anyone;
neither is a registration that fails, for want of a name or of a living binder; the list has the
living names in order; and an interface is refused if nothing is found, or something else. -/
theorem answers_run (host : Host) (id : Nat) (w : World) (present : id < w.registries.length)
    (fresh : w.registry id = .empty) (qs : List Request) :
    let ask := World.ask host id
    let now := after ask w qs
    let map := after Ledger.ask ⟨∅, w.bus⟩ qs
    answers ask w qs = answers Ledger.ask ⟨∅, w.bus⟩ qs ∧
      (∀ name dying,
        let found := map.last[name]?.filter now.bus.isAlive
        (ask now (.check name)).1 = found ∧ (ask now (.get name)).1 = found ∧
          (ask now (.wait name dying)).1 = found ∧ (ask now (.isDeclared name)).1 = found.isSome) ∧
      (∀ name more, ∀ q ∈ [Request.check name, .get name, .isDeclared name],
        answers ask (ask now q).2 more = answers ask now more) ∧
      (∀ name b e, (ask now (.add name b)).1 = .error e ↔
        e = .badValue ∧ (name = "" ∨ now.bus.isAlive b = false)) ∧
      (∀ name b e more, (ask now (.add name b)).1 = .error e →
        answers ask (ask now (.add name b)).2 more = answers ask now more) ∧
      (ask now .list).1.Pairwise (· < ·) ∧
      (∀ name, name ∈ (ask now .list).1 ↔
        ∃ b, map.last[name]? = some b ∧ now.bus.isAlive b = true) ∧
      ∀ i name,
        let got := ask now (.getInterface i name)
        let found := (ask now (.check name)).1
        (got.1 = .error .nameNotFound ↔ found = none) ∧
          (got.1 = .error .badType ↔ ∃ b, found = some b ∧ b.descriptor ≠ i.descriptor) ∧
          (∀ c, got.1 = .ok c → found = some c.remote) ∧
          ∀ e more, got.1 = .error e → answers ask got.2 more = answers ask now more := by
  intro ask now map
  have start : Refines id w ⟨∅, w.bus⟩ :=
    { present, live := rfl, connections := rfl, same := by rw [fresh]; rfl
      registered := by rw [fresh]; exact known_empty w.bus
      recorded := known_empty w.bus }
  have step : ∀ (w : World) (k : Ledger) q, Refines id w k → _ := fun w k q h => h.ask host q
  obtain ⟨same, h⟩ := answers_eq step start qs
  have checked (name : String) : (ask now (.check name)).1 = map.find? name :=
    (h.ask host (.check name)).1
  refine ⟨same, fun name dying => ?_, fun name more q looksUp => ?_, h.add_error_iff host,
    fun name b e more failed => ?_, ?_, fun name => ?_, fun i name => ?_⟩
  · have living : map.find? name = map.last[name]?.filter now.bus.isAlive := by
      rw [Ledger.find?, h.isAlive]
    have waited : (map.ask (.wait name dying)).1 = map.find? name := by
      rw [Ledger.ask]
      cases map.find? name <;> rfl
    rw [← living]
    exact ⟨checked name, (h.ask host (.get name)).1, (h.ask host (.wait name dying)).1.trans waited,
      (h.ask host (.isDeclared name)).1⟩
  · simp only [List.mem_cons, List.not_mem_nil, or_false] at looksUp
    obtain rfl | rfl | rfl := looksUp <;> exact h.unnoticed host rfl more
  · refine h.unnoticed host ?_ more
    have refused := ((h.add_error_iff host name b e).1 failed).2
    rw [← h.isAlive] at refused
    exact congrArg Prod.snd (if_pos refused)
  · rw [(h.ask host .list).1]
    exact map.names_increasing
  · rw [(h.ask host .list).1]
    exact h.mem_names_iff name
  · intro got found
    have hg : got.1 = (map.ask (.getInterface i name)).1 := (h.ask host (.getInterface i name)).1
    have hf : found = map.find? name := checked name
    obtain ⟨missing, foreign, remote, kept⟩ := map.getInterface_spec i name
    rw [hg, hf]
    exact ⟨missing, foreign, remote, fun e more failed => h.unnoticed host (kept e failed) more⟩

/-- Two services, of which one dies and is removed by a look-up. -/
theorem answers_run_died :
    let host : Host :=
      ⟨fun _ _ _ _ _ => ⟨.error .ok, 0, []⟩, fun _ _ _ _ => ⟨.ok .empty, 0, []⟩, fun _ _ _ => none⟩
    let dead := Binder.native 0 .radio 5
    let qs : List Request :=
      [.publish (.hosted 5 : Peer .radio), .publish (.hosted 6 : Peer .tuner), .add "radio" dead,
        .add "tuner" (.native 1 .tuner 6), .kill dead, .check "radio"]
    let ask := World.ask host 0
    let now := after ask World.empty qs
    (ask now (.check "radio")).1 = none ∧ (ask now .list).1 = ["tuner"] ∧
      (ask now (.add "radio" dead)).1 = .error .badValue ∧
      (ask now (.getInterface .radio "tuner")).1 = .error .badType := by
  intro host dead qs ask now
  obtain ⟨-, found, -, refused, -, -, -, interface⟩ :=
    answers_run host 0 World.empty (by decide) rfl qs
  obtain ⟨-, foreign, -⟩ := interface .radio "tuner"
  have checked : (ask now (.check "radio")).1 = none := (found "radio" []).1.trans (by decide +kernel)
  have tuner : (ask now (.check "tuner")).1 = some (.native 1 .tuner 6) := by decide +kernel
  exact ⟨checked, by decide +kernel, (refused "radio" dead .badValue).2 ⟨rfl, .inr rfl⟩,
    foreign.2 ⟨_, tuner, by decide⟩⟩

end ServiceBus
