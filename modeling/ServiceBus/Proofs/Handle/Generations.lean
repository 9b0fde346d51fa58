import ServiceBus.Proofs.Handle.Reconnection
import ServiceBus.Proofs.Handle.Renewal

/-!
Everything about one handle, whatever becomes of the world around it. A handle is used in any order,
and between two uses binders die, names are registered anew and look-ups come to answer otherwise.
From one moment at which the handle is emptied to the next it gives out one connection, and it never
gives that connection out again.
-/
namespace ServiceBus

open World

variable {i : Interface} {host : Host} {r : HandleRef i} {w w' w'' : World}

namespace World

/-- One look-up, and of a binder that answers to the interface a connection to it. -/
theorem resolve_spec {x : Handle i} (hx : w.handle? r = some x) (empty : x.cached = none) :
    (w.resolve host r).2.bus.events = w.bus.events ++
        [.lookedUp x.directory x.name (w.lookup host x.directory x.name).1] ∧
      (w.resolve host r).1.map Connection.remote =
        (w.lookup host x.directory x.name).1.filter fun b => b.descriptor = i.descriptor := by
  have events := w.lookup_events host x.directory x.name
  rcases looked : w.lookup host x.directory x.name with ⟨_ | b, w₁⟩
  all_goals
    rw [looked] at events
    simp only [resolve, hx, empty, looked]
  · exact ⟨events, rfl⟩
  · by_cases answers : b.descriptor = i.descriptor
    · simp only [onBus, Bus.connect, if_pos answers]
      exact ⟨(quiet_setCached _ r _).events.trans events, by simp [Option.filter_some, answers]⟩
    · simp only [onBus, Bus.connect, if_neg answers]
      exact ⟨events, by simp [Option.filter_some, answers]⟩

theorem handle?_congr (h : w'.handles = w.handles) (r : HandleRef i) :
    w'.handle? r = w.handle? r := by
  rw [handle?, handle?, h]

theorem invalidate_of_empty (empty : w.cached? r = none) : w.invalidate r = w := by
  rw [invalidate]
  cases handle : w.handle? r with
  | none => rfl
  | some x =>
    rw [cached?_of_handle? handle] at empty
    simp [empty]

theorem isResolved_iff : w.isResolved r = true ↔ ∃ c, w.cached? r = some c :=
  Option.isSome_iff_exists

end World

namespace HandleRef

inductive Use (i : Interface)
  | resolve
  | invalidate
  | invalidateIf (stale : Peer i)
  | isResolved

/-- The uses that empty a handle that has the connection at hand. -/
inductive Use.Empties (c : Connection i) : Use i → Prop
  | invalidate : Empties c .invalidate
  | invalidateIf : Empties c (.invalidateIf (.remote c))

theorem Use.not_empties_resolve (c : Connection i) : ¬ Use.Empties c .resolve := nofun

def use (host : Host) (r : HandleRef i) (w : World) : Use i → World
  | .resolve => (w.resolve host r).2
  | .invalidate => w.invalidate r
  | .invalidateIf stale => w.invalidateIf r stale
  | .isResolved => w

/-- Others may do anything but use the handle. Connections are only ever added. -/
structure Untouched (r : HandleRef i) (w w' : World) : Prop where
  handle : w'.handle? r = w.handle? r
  connections : w.bus.connections ≤ w'.bus.connections

/-- The uses of a handle in a row, each with the world that it found, and what others do in
between. -/
inductive Run (host : Host) (r : HandleRef i) (w : World) : List (World × Use i) → World → Prop
  | start : Run host r w [] w
  | use {uses : List (World × Use i)} {w' : World} (run : Run host r w uses w') (u : Use i) :
      Run host r w (uses ++ [(w', u)]) (r.use host w' u)
  | meanwhile {uses : List (World × Use i)} {w' w'' : World} (run : Run host r w uses w')
      (others : r.Untouched w' w'') : Run host r w uses w''

/-- Whether a use changed what the handle has at hand. -/
def changes (host : Host) (r : HandleRef i) (e : World × Use i) : Bool :=
  (r.use host e.1 e.2).cached? r ≠ e.1.cached? r

theorem Untouched.cached? (h : r.Untouched w w') : w'.cached? r = w.cached? r := by
  rw [World.cached?, World.cached?, h.handle]

section

variable {c : Connection i} {u : Use i}

theorem cached?_use_of_empties (cached : w.cached? r = some c) (empties : u.Empties c) :
    (r.use host w u).cached? r = none := by
  cases empties with
  | invalidate => exact cached?_invalidate w r
  | invalidateIf =>
    rw [use, invalidateIf_of_cached cached]
    exact cached?_invalidate w r

theorem cached?_use_of_keeps (cached : w.cached? r = some c) (keeps : ¬ u.Empties c) :
    (r.use host w u).cached? r = some c := by
  cases u with
  | resolve =>
    rw [use, resolve_of_cached host cached]
    exact cached
  | invalidate => exact absurd .invalidate keeps
  | invalidateIf stale =>
    have other : (w.cached? r).map Peer.remote ≠ some stale := by
      rw [cached]
      rintro ⟨⟩
      exact keeps .invalidateIf
    exact (cached?_congr (invalidateIf_handles_of_ne other) r).trans cached
  | isResolved => exact cached

theorem cached?_use_eq_none_iff (cached : w.cached? r = some c) :
    (r.use host w u).cached? r = none ↔ u.Empties c := by
  constructor
  · intro empty
    refine Classical.byContradiction fun keeps => ?_
    cases empty.symm.trans (cached?_use_of_keeps cached keeps)
  · exact cached?_use_of_empties cached

/-- Nothing but being resolved fills a handle. -/
theorem cached?_use_of_other (other : u ≠ .resolve) (has : (r.use host w u).cached? r = some c) :
    (r.use host w u).cached? r = w.cached? r := by
  cases u with
  | resolve => exact absurd rfl other
  | invalidate => cases (cached?_invalidate w r).symm.trans has
  | invalidateIf stale =>
    by_cases same : (w.cached? r).map Peer.remote = some stale
    · obtain ⟨d, cached, rfl⟩ := Option.map_eq_some_iff.1 same
      cases (cached?_use_of_empties cached .invalidateIf).symm.trans has
    · exact cached?_congr (invalidateIf_handles_of_ne same) r
  | isResolved => rfl

end

theorem renews_use (u : Use i) : Renews r w (r.use host w u) := by
  cases u with
  | resolve => exact renews_resolve w
  | invalidate => exact renews_invalidate w
  | invalidateIf stale => exact renews_invalidateIf w r stale
  | isResolved => exact .refl w

theorem lookups_use {u : Use i} (other : u ≠ .resolve) :
    (r.use host w u).bus.lookups = w.bus.lookups := by
  cases u with
  | resolve => exact absurd rfl other
  | invalidate => exact Bus.lookups_congr (quiet_invalidate w r).events
  | invalidateIf stale => exact Bus.lookups_congr (quiet_invalidateIf w r stale).events
  | isResolved => rfl

theorem handles_use (host : Host) (q : HandleRef i) (w : World) (u : Use i) :
    ∃ c, (q.use host w u).handles = w.handles ∨
      (q.use host w u).handles = (w.setCached q c).handles := by
  cases u with
  | resolve =>
    cases handle : w.handle? q with
    | none => exact ⟨none, .inl (by simp [use, World.resolve, handle])⟩
    | some x =>
      cases cached : x.cached with
      | some c =>
        have kept := resolve_of_cached host ((cached?_of_handle? handle).trans cached)
        exact ⟨none, .inl (congrArg (fun x => x.2.handles) kept)⟩
      | none =>
        obtain ⟨w₁, same, -, missed | ⟨b, made⟩⟩ := resolve_cases host handle cached
        · exact ⟨none, .inl ((congrArg (fun x => x.2.handles) missed).trans same)⟩
        · refine ⟨some ⟨w₁.bus.connections, b⟩, .inr ?_⟩
          rw [use, made]
          exact setCached_handles_congr (by exact same) q _
  | invalidate =>
    cases cached : w.cached? q with
    | none => exact ⟨none, .inl (congrArg World.handles (invalidate_of_empty cached))⟩
    | some c => exact ⟨none, .inr (invalidate_handles cached)⟩
  | invalidateIf stale =>
    by_cases same : (w.cached? q).map Peer.remote = some stale
    · obtain ⟨c, cached, rfl⟩ := Option.map_eq_some_iff.1 same
      refine ⟨none, .inr ?_⟩
      rw [use, invalidateIf_of_cached cached, invalidate_handles cached]
    · exact ⟨none, .inl (invalidateIf_handles_of_ne same)⟩
  | isResolved => exact ⟨none, .inl rfl⟩

/-- The uses of another handle are among what others may do. -/
theorem untouched_use {q : HandleRef i} (other : r ≠ q) (u : Use i) :
    r.Untouched w (q.use host w u) := by
  refine ⟨?_, (renews_use u).connections⟩
  obtain ⟨c, same | changed⟩ := handles_use host q w u
  · exact handle?_congr same r
  · exact (handle?_congr changed r).trans (handle?_setCached_of_ne other w c)

theorem untouched_call {j : Interface} (p : Peer j) (m : Method j) (args : m.Args) :
    r.Untouched w { w with bus := (p.call host m args w.bus).2 } :=
  ⟨rfl, Bus.lasting_connections.call host p m args w.bus⟩

def Named (r : HandleRef i) (name : String) (directory : Directory) (w : World) : Prop :=
  ∃ cached, w.handle? r = some ⟨name, directory, cached⟩

section

variable {name : String} {directory : Directory}

theorem Named.of_handles (h : r.Named name directory w) (same : w'.handles = w.handles) :
    r.Named name directory w' := by
  obtain ⟨cached, handle⟩ := h
  exact ⟨cached, (handle?_congr same r).trans handle⟩

theorem Named.setCached (h : r.Named name directory w) (c : Option (Connection i)) :
    r.Named name directory (w.setCached r c) := by
  obtain ⟨cached, handle⟩ := h
  exact ⟨c, by rw [handle?_setCached_self, handle, Option.map_some]⟩

theorem Named.use (h : r.Named name directory w) (u : Use i) :
    r.Named name directory (r.use host w u) := by
  obtain ⟨c, same | changed⟩ := handles_use host r w u
  · exact h.of_handles same
  · exact (h.setCached c).of_handles changed

theorem Run.named {uses : List (World × Use i)} (run : r.Run host w uses w')
    (h : r.Named name directory w) : r.Named name directory w' := by
  induction run with
  | start => exact h
  | use _ u ih => exact ih.use u
  | meanwhile _ others ih =>
    obtain ⟨cached, handle⟩ := ih
    exact ⟨cached, others.handle.trans handle⟩

end

theorem Run.renews {uses : List (World × Use i)} (run : r.Run host w uses w') : Renews r w w' := by
  induction run with
  | start => exact .refl w
  | use _ u ih => exact ih.trans (renews_use u)
  | meanwhile _ others ih => exact ih.trans (.of_kept others.cached? others.connections)

/-- A handle gives out a connection until it is emptied, and from then on only newer ones. The
induction is on the run: after a use that empties the handle, the ones that follow find it empty or
with a connection that was made since. -/
theorem Run.generations {uses : List (World × Use i)} (run : r.Run host w uses w')
    {c : Connection i} (cached : w.cached? r = some c) :
    ((∀ e ∈ uses, ¬ e.2.Empties c) → w'.cached? r = some c) ∧
      ((∃ e ∈ uses, e.2.Empties c) →
        ∀ d, w'.cached? r = some d → w.bus.connections ≤ d.serial) := by
  induction run with
  | start => exact ⟨fun _ => cached, fun ⟨_, he, _⟩ => absurd he List.not_mem_nil⟩
  | @meanwhile uses w₁ w₂ run others ih => rwa [others.cached?]
  | @use uses w₁ run u ih =>
    constructor
    · intro keeps
      have before := ih.1 fun e he => keeps e (List.mem_append_left _ he)
      exact cached?_use_of_keeps before (keeps (w₁, u) (List.mem_append_right _ List.mem_cons_self))
    · intro emptied d has
      by_cases earlier : ∃ e ∈ uses, e.2.Empties c
      · rcases (renews_use u).cached d has with kept | ⟨made, -⟩
        · exact ih.2 earlier d kept
        · exact Nat.le_trans run.renews.connections made
      · obtain ⟨e, he, empties⟩ := emptied
        have before := ih.1 fun e he empties => earlier ⟨e, he, empties⟩
        rcases List.mem_append.1 he with he | he
        · exact absurd ⟨e, he, empties⟩ earlier
        · cases List.mem_singleton.1 he
          cases (cached?_use_of_empties before empties).symm.trans has

theorem Run.isResolved_iff {uses : List (World × Use i)} (run : r.Run host w uses w')
    (fresh : w.cached? r = none) :
    w'.isResolved r = true ↔ ∃ w₁ c, (uses.filter (r.changes host)).getLast? =
      some (w₁, .resolve) ∧ (w₁.resolve host r).1 = some c := by
  rw [World.isResolved_iff]
  induction run with
  | start =>
    rw [fresh]
    exact ⟨nofun, nofun⟩
  | meanwhile _ others ih => rwa [others.cached?]
  | @use uses w₁ run u ih =>
    cases changed : r.changes host (w₁, u) with
    | false =>
      have same : (r.use host w₁ u).cached? r = w₁.cached? r := by
        simpa [changes] using changed
      rw [List.filter_append, List.filter_cons_of_neg (by simp [changed]), List.filter_nil,
        List.append_nil, same]
      exact ih
    | true =>
      have other : (r.use host w₁ u).cached? r ≠ w₁.cached? r := by
        simpa [changes] using changed
      rw [List.filter_append, List.filter_cons_of_pos changed, List.filter_nil,
        List.getLast?_concat]
      constructor
      · rintro ⟨c, has⟩
        by_cases resolves : u = .resolve
        · subst resolves
          exact ⟨w₁, c, rfl, (cached?_resolve host w₁ r).symm.trans has⟩
        · exact absurd (cached?_use_of_other resolves has) other
      · rintro ⟨_, c, ⟨⟩, given⟩
        exact ⟨c, (cached?_resolve host w₁ r).trans given⟩

/-- One handle, used in any order while the world changes around it. Being resolved costs one
look-up if nothing is at hand, and nothing costs one otherwise. The connection is to the binder that
is found, if it answers to the interface, and it is kept. From when it is at hand until the handle
is emptied the handle is resolved to it, and afterwards to others. The handle is emptied by being
invalidated, or invalidated if the connection is still the given one, and another one given changes
nothing. Whether something is at hand is told by the last use that changed it. -/
theorem caches_run (host : Host) (r : HandleRef i) {w₀ w : World} {name : String}
    {directory : Directory} (fresh : w₀.handle? r = some ⟨name, directory, none⟩)
    {uses : List (World × Use i)} (run : r.Run host w₀ uses w) :
    let found := (w.lookup host directory name).1
    let resolved := w.resolve host r
    resolved.2.bus.lookups =
        w.bus.lookups ++ (if w.cached? r = none then [(directory, name, found)] else []) ∧
      (∀ u, u ≠ .resolve → (r.use host w u).bus.lookups = w.bus.lookups) ∧
      (w.cached? r = none →
        resolved.1.map Connection.remote = found.filter fun b => b.descriptor = i.descriptor) ∧
      resolved.2.cached? r = resolved.1 ∧
      (∀ c, resolved.1 = some c → ∀ later w' d, r.Run host resolved.2 later w' →
        (w'.resolve host r).1 = some d →
          ((∀ e ∈ later, ¬ e.2.Empties c) → d = c) ∧
          ((∃ e ∈ later, e.2.Empties c) → d.serial ≠ c.serial)) ∧
      (∀ c, w.cached? r = some c → ∀ u, (r.use host w u).cached? r = none ↔ u.Empties c) ∧
      (∀ stale, (w.cached? r).map Peer.remote ≠ some stale →
        (w.invalidateIf r stale).handles = w.handles ∧ w.Quiet (w.invalidateIf r stale)) ∧
      (w.isResolved r = true ↔ ∃ w₁ c, (uses.filter (r.changes host)).getLast? =
        some (w₁, .resolve) ∧ (w₁.resolve host r).1 = some c) := by
  intro found resolved
  have empty : w₀.cached? r = none := cached?_of_handle? fresh
  obtain ⟨cached, handle⟩ := run.named ⟨none, fresh⟩
  have hand : w.cached? r = cached := cached?_of_handle? handle
  refine ⟨?lookups, fun u => lookups_use, ?found, cached?_resolve host w r, ?generations,
    fun c hc u => cached?_use_eq_none_iff hc, ?others, run.isResolved_iff empty⟩
  case lookups =>
    cases cached with
    | none =>
      rw [if_pos hand, Bus.lookups, (resolve_spec handle rfl).1, List.filterMap_append]
      rfl
    | some c =>
      have full : w.cached? r ≠ none := by
        rw [hand]
        exact Option.some_ne_none c
      rw [if_neg full, List.append_nil]
      exact congrArg (fun x => x.2.bus.lookups) (resolve_of_cached host hand)
  case found =>
    intro none
    cases hand.symm.trans none
    exact (resolve_spec handle rfl).2
  case generations =>
    intro c given later w' d run' given'
    have had : resolved.2.cached? r = some c := (cached?_resolve host w r).trans given
    have has : (w'.resolve host r).2.cached? r = some d := (cached?_resolve host w' r).trans given'
    -- The number of the connection is from before the later run.
    have lt : c.serial < resolved.2.bus.connections := by
      rcases (run.use .resolve).renews.cached c had with old | ⟨-, lt⟩
      · cases empty.symm.trans old
      · exact lt
    obtain ⟨kept, renewed⟩ := (run'.use .resolve).generations had
    constructor
    · intro keeps
      have same := kept fun e he => (List.mem_append.1 he).elim (keeps e) fun last => by
        rw [List.mem_singleton.1 last]
        exact Use.not_empties_resolve c
      exact Option.some.inj (has.symm.trans same)
    · rintro ⟨e, he, empties⟩
      have ge := renewed ⟨e, List.mem_append_left _ he, empties⟩ d has
      omega
  case others =>
    exact fun stale other => ⟨invalidateIf_handles_of_ne other, quiet_invalidateIf w r stale⟩

/-- A service dies while a handle has it at hand, and another one is found in its place, also by
somebody else. The handle is told to drop something else and keeps the dead one; then it is told to
drop that. -/
theorem caches_run_replaced :
    let old := Binder.native 0 .radio 5
    let host : Host :=
      ⟨fun _ _ _ _ _ => ⟨.error .ok, 0, []⟩, fun _ _ _ _ => ⟨.ok .empty, 0, []⟩,
        fun _ _ s => some (if s.isAlive old then old else .native 1 .radio 6)⟩
    let x : Handle .radio := ⟨"broadcastradio", .custom 0, none⟩
    let w : World := ⟨⟨[true], 0, [], []⟩, [.empty], ⟨[], [x, x], []⟩⟩
    let r : HandleRef .radio := ⟨0⟩
    let q : HandleRef .radio := ⟨1⟩
    let first := w.resolve host r
    let died : World := { first.2 with bus := first.2.bus.kill old }
    let replaced : World := { died with bus := (died.bus.publish (.hosted 6 : Peer .radio)).2 }
    let kept := (q.use host replaced .resolve).invalidateIf r (.hosted 5)
    let emptied := kept.invalidateIf r (.remote ⟨0, old⟩)
    first.1 = some ⟨0, old⟩ ∧ (∀ d, (kept.resolve host r).1 = some d → d = ⟨0, old⟩) ∧
      (∀ d, (emptied.resolve host r).1 = some d → d.serial ≠ 0) ∧
      (emptied.resolve host r).1 = some ⟨2, .native 1 .radio 6⟩ := by
  intro old host x w r q first died replaced kept emptied
  have replacement : r.Untouched first.2 replaced := ⟨rfl, Nat.le_refl _⟩
  have other : r.Untouched replaced (q.use host replaced .resolve) :=
    untouched_use (by decide) .resolve
  have run : r.Run host first.2 [(_, .invalidateIf (.hosted 5))] kept :=
    ((Run.start.meanwhile replacement).meanwhile other).use (.invalidateIf (.hosted 5))
  have drop : r.Run host first.2 _ emptied := run.use (.invalidateIf (.remote ⟨0, old⟩))
  have fresh : w.handle? r = some ⟨"broadcastradio", .custom 0, none⟩ := rfl
  obtain ⟨-, -, -, -, generations, -⟩ := caches_run host r fresh .start
  have later := generations ⟨0, old⟩ rfl
  have second : (emptied.resolve host r).1 = some ⟨2, .native 1 .radio 6⟩ := by decide +kernel
  refine ⟨rfl, fun d given => ?_, fun d given => ?_, second⟩
  · refine (later _ kept d run given).1 fun e he => ?_
    cases List.mem_singleton.1 he
    exact nofun
  · exact (later _ emptied d drop given).2
      ⟨_, List.mem_append_right _ List.mem_cons_self, .invalidateIf⟩

end HandleRef

end ServiceBus
