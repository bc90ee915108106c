import EventCapture.Proofs.Trail

/-! The life of sessions in a run.

Whatever a client does, each table of routes holds the routes of the handles that are still attached
and of the sessions that still capture, and nothing else. Since the sink of a session is in nobody
else's reach, one route at most leads to it, and it is frozen from the closing on.
-/

set_option autoImplicit false

namespace EventCapture

/-- The route by which a session is attached to a router. -/
def Session.routeOn? (session : Session) (id : RouterId) : Option Route :=
  match session.phase with
  | .capturing route =>
    if session.router = id then some ⟨route, session.patterns, session.least, session.sink⟩
    else none
  | _ => none

namespace Client

/-- The route of a handle that is attached to a router. -/
def Handle.routeOn? (handle : Handle) (id : RouterId) : Option Route :=
  if handle.attached ∧ handle.router = id then some handle.route else none

theorem of_handle_route {handle : Handle} {id : RouterId} {route : Route}
    (attached : handle.routeOn? id = some route) :
    handle.attached ∧ handle.router = id ∧ handle.route = route := by
  unfold Handle.routeOn? at attached
  split at attached
  · next held => exact ⟨held.1, held.2, Option.some.inj attached⟩
  · contradiction

theorem of_session_route {session : Session} {id : RouterId} {route : Route}
    (attached : session.routeOn? id = some route) :
    session.isClosed = false ∧ session.router = id ∧ route.sink = session.sink := by
  unfold Session.routeOn? at attached
  split at attached
  · next phase =>
    split at attached
    · next same =>
      rw [← Option.some.inj attached, Session.isClosed, phase]
      exact ⟨rfl, same, rfl⟩
    · contradiction
  · contradiction

/-- The routes that belong in the table of a router. -/
def Course.routesOf (c : Course) (id : RouterId) : List Route :=
  c.handles.filterMap (·.routeOn? id) ++ c.world.sessions.filterMap (·.routeOn? id)

/-- The tables of routes hold what belongs in them. -/
structure Tabled (c : Course) : Prop where
  held : ∀ id, (c.world.table id).Perm (c.routesOf id)
  /-- Every route of a table has a number of its own. -/
  numbered : ∀ id, ((c.world.table id).map Route.id).Nodup
  below : ∀ id, ∀ route ∈ c.world.table id, route.id.number < c.world.nextRoute id
  /-- The number of a route that was detached is not used again. -/
  spent : ∀ handle ∈ c.handles, handle.attached = false →
    handle.route.id.number < c.world.nextRoute handle.router ∧
      ∀ route ∈ c.world.table handle.router, route.id ≠ handle.route.id

/-- Every sink belongs to the client or to one session. -/
structure Owned (c : Course) : Prop where
  made : ∀ id ∈ c.sinks, (c.world.frozen? id).isSome
  /-- The routes of the client lead to its own sinks. -/
  routed : ∀ handle ∈ c.handles, handle.route.sink ∈ c.sinks
  foreign : ∀ session ∈ c.world.sessions, session.sink ∉ c.sinks
  apart : (c.world.sessions.map Session.sink).Nodup
  /-- The sink of a session is frozen when the session is closed. -/
  frozen : ∀ session ∈ c.world.sessions, c.world.frozen? session.sink = some session.isClosed

structure Lawful (c : Course) : Prop where
  tabled : Tabled c
  owned : Owned c
  begun : ∀ session ∈ c.world.sessions, session.phase ≠ .armed

theorem lawful_start (origin : Instant) : Lawful (Course.start origin) := by
  have nothing (id : RouterId) : (Course.start origin).world.table id = [] :=
    World.table_start origin id
  constructor
  · constructor
    · exact fun id => by rw [nothing]; exact .refl _
    · exact fun id => by rw [nothing]; exact .nil
    · exact fun id => by simp [nothing]
    · simp [Course.start]
  · constructor <;> simp [Course.start, World.start]
  · simp [Course.start, World.start]

/-! ### Steps that touch no table -/

theorem Tabled.kept {c d : Course} (tabled : Tabled c) (handles : d.handles = c.handles)
    (sessions : d.world.sessions = c.world.sessions)
    (tables : ∀ id, d.world.table id = c.world.table id)
    (numbers : ∀ id, c.world.nextRoute id ≤ d.world.nextRoute id) : Tabled d := by
  constructor
  · intro id
    rw [tables, Course.routesOf, handles, sessions]
    exact tabled.held id
  · intro id
    rw [tables]
    exact tabled.numbered id
  · intro id route member
    rw [tables] at member
    exact Nat.lt_of_lt_of_le (tabled.below id route member) (numbers id)
  · intro handle member detached
    rw [handles] at member
    obtain ⟨below, apart⟩ := tabled.spent handle member detached
    rw [tables]
    exact ⟨Nat.lt_of_lt_of_le below (numbers _), apart⟩

theorem Tabled.same {c d : Course} (tabled : Tabled c) (handles : d.handles = c.handles)
    (sessions : d.world.sessions = c.world.sessions) (routers : d.world.routers = c.world.routers) :
    Tabled d :=
  tabled.kept handles sessions (World.table_of_routers routers) fun id =>
    Nat.le_of_eq (World.nextRoute_of_routers routers id).symm

/-- Sinks are not concerned where none is lost, those of sessions are frozen as before, and every
handle leads where a former one did. -/
theorem Owned.kept {c d : Course} (owned : Owned c) (sinks : d.sinks = c.sinks)
    (sessions : d.world.sessions = c.world.sessions)
    (handles : ∀ handle ∈ d.handles, ∃ former ∈ c.handles, former.route = handle.route)
    (made : ∀ id, (c.world.frozen? id).isSome → (d.world.frozen? id).isSome)
    (frozen : ∀ id, id ∉ c.sinks → d.world.frozen? id = c.world.frozen? id) : Owned d := by
  constructor
  · intro id own
    rw [sinks] at own
    exact made id (owned.made id own)
  · intro handle member
    obtain ⟨former, there, same⟩ := handles handle member
    rw [sinks, ← same]
    exact owned.routed former there
  · rw [sinks, sessions]
    exact owned.foreign
  · rw [sessions]
    exact owned.apart
  · intro session member
    rw [sessions] at member
    rw [frozen _ (owned.foreign session member)]
    exact owned.frozen session member

theorem Owned.same {c d : Course} (owned : Owned c) (sinks : d.sinks = c.sinks)
    (handles : d.handles = c.handles) (sessions : d.world.sessions = c.world.sessions)
    (frozen : ∀ id, d.world.frozen? id = c.world.frozen? id) : Owned d := by
  apply owned.kept sinks sessions
  · intro handle member
    rw [handles] at member
    exact ⟨handle, member, rfl⟩
  · intro id there
    rw [frozen]
    exact there
  · exact fun id _ => frozen id

theorem Lawful.steady {c d : Course} (lawful : Lawful c) (sinks : d.sinks = c.sinks)
    (handles : d.handles = c.handles) (steady : World.Steady c.world d.world) : Lawful d := by
  constructor
  · exact lawful.tabled.same handles steady.sessions steady.routers
  · exact lawful.owned.same sinks handles steady.sessions steady.seals
  · rw [steady.sessions]
    exact lawful.begun

/-- What is put down in the log is no concern of tables and sinks. -/
theorem Lawful.noted {c : Course} (lawful : Lawful c) (happening : Happening) :
    Lawful (c.noted happening) :=
  lawful.steady rfl rfl (.refl c.world)

theorem Lawful.newRouter {c : Course} (lawful : Lawful c) (ownEvents : Bool) :
    Lawful (c.moved (c.world.newRouter ownEvents).1) := by
  constructor
  · exact lawful.tabled.kept rfl rfl (World.table_newRouter c.world ownEvents)
      (World.nextRoute_newRouter c.world ownEvents)
  · exact lawful.owned.same rfl rfl rfl fun _ => rfl
  · exact lawful.begun

theorem Lawful.touch {c : Course} (lawful : Lawful c) {id : SinkId} (own : id ∈ c.sinks)
    (sink : Sink) : Lawful (c.moved (c.world.setSink id sink)) := by
  refine ⟨lawful.tabled.same rfl rfl rfl, ?_, lawful.begun⟩
  refine lawful.owned.kept rfl rfl (fun handle member => ⟨handle, member, rfl⟩) ?_ ?_
  · intro other there
    rw [← World.isSome_frozen?_setSink c.world id other sink] at there
    exact there
  · intro other foreign
    apply World.frozen?_of_sink?
    apply World.sink?_setSink_of_ne
    rintro rfl
    exact foreign own

/-! ### New sinks -/

theorem Owned.own_lt {c : Course} (owned : Owned c) {id : SinkId} (own : id ∈ c.sinks) :
    id.index < c.world.sinks.length :=
  World.index_lt_of_frozen? (owned.made id own)

theorem Owned.session_lt {c : Course} (owned : Owned c) {session : Session}
    (member : session ∈ c.world.sessions) : session.sink.index < c.world.sinks.length :=
  World.index_lt_of_frozen? (by rw [owned.frozen session member]; rfl)

theorem Lawful.newSink {c : Course} (lawful : Lawful c) (wall : Instant) :
    Lawful
      { c with
        world := { c.world with sinks := c.world.sinks ++ [Sink.start c.world.elapsed wall] }
        sinks := c.sinks ++ [⟨c.world.sinks.length⟩] } := by
  refine ⟨lawful.tabled.same rfl rfl rfl, ?_, lawful.begun⟩
  have owned := lawful.owned
  let grown : World := { c.world with
    sinks := c.world.sinks ++ [Sink.start c.world.elapsed wall] }
  have kept (id : SinkId) (bound : id.index < c.world.sinks.length) :
      grown.frozen? id = c.world.frozen? id :=
    World.frozen?_of_sink? (World.sink?_append _ rfl bound)
  constructor
  · intro id own
    rcases List.mem_append.mp own with own | own
    · exact kept id (owned.own_lt own) ▸ owned.made id own
    · rw [List.mem_singleton.mp own]
      simp [World.frozen?, World.sink?]
  · exact fun handle member => List.mem_append_left _ (owned.routed handle member)
  · intro session member own
    rcases List.mem_append.mp own with own | own
    · exact owned.foreign session member own
    · have bound := owned.session_lt member
      rw [List.mem_singleton.mp own] at bound
      exact Nat.lt_irrefl _ bound
  · exact owned.apart
  · intro session member
    exact (kept _ (owned.session_lt member)).trans (owned.frozen session member)

/-! ### Attaching -/

/-- A route with the next number may be added to a table, for a handle or a session that it
belongs to. -/
theorem Tabled.grown {c d : Course} (tabled : Tabled c) {id : RouterId} {route : Route}
    (next : route.id.number = c.world.nextRoute id)
    (tables : ∀ other,
      d.world.table other = c.world.table other ++ if other = id then [route] else [])
    (numbers : ∀ other,
      d.world.nextRoute other = c.world.nextRoute other + if other = id then 1 else 0)
    (held : ∀ other, (d.routesOf other).Perm (c.routesOf other ++ if other = id then [route] else []))
    (handles : ∀ handle ∈ d.handles, handle.attached = false → handle ∈ c.handles) : Tabled d := by
  have old_or_new {other : RouterId} {held : Route} (member : held ∈ d.world.table other) :
      held ∈ c.world.table other ∨ other = id ∧ held = route := by
    rw [tables] at member
    simpa using member
  constructor
  · intro other
    rw [tables]
    exact ((tabled.held other).append_right _).trans (held other).symm
  · intro other
    rw [tables, List.map_append]
    refine List.nodup_append.mpr ⟨tabled.numbered other, by split <;> simp, ?_⟩
    -- The number of the new route is above those of all others in its table.
    rintro _ old _ new rfl
    obtain ⟨former, member, same⟩ := List.mem_map.mp old
    have below := tabled.below other former member
    by_cases here : other = id
    · subst here
      simp only [if_true, List.map_cons, List.map_nil, List.mem_singleton] at new
      rw [same, new, next] at below
      exact Nat.lt_irrefl _ below
    · simp [here] at new
  · intro other held member
    rw [numbers]
    obtain old | ⟨rfl, rfl⟩ := old_or_new member
    · exact Nat.lt_add_right _ (tabled.below other held old)
    · rw [next, if_pos rfl]
      exact Nat.lt_succ_self _
  · intro handle member detached
    obtain ⟨below, apart⟩ := tabled.spent handle (handles handle member detached) detached
    rw [numbers]
    refine ⟨Nat.lt_add_right _ below, fun held there same => ?_⟩
    obtain old | ⟨here, new⟩ := old_or_new there
    · exact apart held old same
    · rw [← same, new, next, here] at below
      exact Nat.lt_irrefl _ below

theorem Lawful.attach {c : Course} (lawful : Lawful c) {id : RouterId} {router : Router}
    {sink : SinkId} (found : c.world.router? id = some router) (own : sink ∈ c.sinks)
    (patterns : PatternSet) (least : Level) :
    Lawful
      { c with
        world := c.world.setRouter id (router.attach patterns least sink).1
        handles := c.handles ++ [⟨id, ⟨⟨router.nextNumber⟩, patterns, least, sink⟩, true⟩] } := by
  have owned := lawful.owned
  refine ⟨?_, ⟨owned.made, ?_, owned.foreign, owned.apart, owned.frozen⟩, lawful.begun⟩
  · apply lawful.tabled.grown (World.nextRoute_of_router found).symm
      (World.table_attached found patterns least sink)
      (World.nextRoute_attached found patterns least sink)
    · intro other
      have last : [Handle.mk id ⟨⟨router.nextNumber⟩, patterns, least, sink⟩ true].filterMap
          (·.routeOn? other) =
          if other = id then [⟨⟨router.nextNumber⟩, patterns, least, sink⟩] else [] := by
        by_cases same : other = id
        · simp [Handle.routeOn?, same]
        · simp [Handle.routeOn?, same, Ne.symm same]
      simp only [Course.routesOf, List.filterMap_append, last, List.append_assoc]
      exact List.perm_append_comm.append_left _
    · intro handle member detached
      rcases List.mem_append.mp member with old | new
      · exact old
      · rw [List.mem_singleton.mp new] at detached
        contradiction
  · intro handle member
    rcases List.mem_append.mp member with old | new
    · exact owned.routed handle old
    · rw [List.mem_singleton.mp new]
      exact own

section enlisted

variable {c : Course} {router : Router} {session : Session} (wall : Instant)

theorem Tabled.enlisted (tabled : Tabled c)
    (found : c.world.router? session.router = some router)
    (phase : session.phase = .capturing ⟨router.nextNumber⟩) :
    Tabled (c.moved (c.world.enlist router wall session)) := by
  let attached := c.world.setRouter session.router
    (router.attach session.patterns session.least session.sink).1
  have routers : (c.world.enlist router wall session).routers = attached.routers := rfl
  let route : Route := ⟨⟨router.nextNumber⟩, session.patterns, session.least, session.sink⟩
  have next : route.id.number = c.world.nextRoute session.router :=
    (World.nextRoute_of_router found).symm
  have last (id : RouterId) : [session].filterMap (·.routeOn? id) =
      if id = session.router then [route] else [] := by
    by_cases same : id = session.router
    · simp [Session.routeOn?, phase, same, route]
    · simp [Session.routeOn?, phase, same, Ne.symm same]
  apply tabled.grown next
  · intro other
    exact (World.table_of_routers routers other).trans (World.table_attached found _ _ _ other)
  · intro other
    exact (World.nextRoute_of_routers routers other).trans
      (World.nextRoute_attached found _ _ _ other)
  · intro other
    simp only [Course.routesOf, Course.moved, World.enlist, List.filterMap_append, last,
      List.append_assoc]
    exact .refl _
  · exact fun _ member _ => member

/-- The sink of a new session is a new one, so that it is neither the client's nor another
session's. -/
theorem Owned.enlisted (owned : Owned c) (sink : session.sink = ⟨c.world.sinks.length⟩)
    (phase : session.phase = .capturing ⟨router.nextNumber⟩) :
    Owned (c.moved (c.world.enlist router wall session)) := by
  have kept (id : SinkId) (bound : id.index < c.world.sinks.length) :
      (c.world.enlist router wall session).frozen? id = c.world.frozen? id :=
    World.frozen?_of_sink? (World.sink?_append _ rfl bound)
  constructor
  · intro id own
    rw [Course.moved, kept id (owned.own_lt own)]
    exact owned.made id own
  · exact owned.routed
  · intro other member own
    rcases List.mem_append.mp member with old | new
    · exact owned.foreign other old own
    · have bound := owned.own_lt own
      rw [List.mem_singleton.mp new, sink] at bound
      exact Nat.lt_irrefl _ bound
  · simp only [Course.moved, World.enlist, List.map_append]
    refine List.nodup_append.mpr ⟨owned.apart, by simp, ?_⟩
    rintro _ old _ new rfl
    obtain ⟨other, member, same⟩ := List.mem_map.mp old
    have bound := owned.session_lt member
    simp only [List.map_cons, List.map_nil, List.mem_singleton] at new
    rw [same, new, sink] at bound
    exact Nat.lt_irrefl _ bound
  · intro other member
    rcases List.mem_append.mp member with old | new
    · rw [Course.moved, kept _ (owned.session_lt old)]
      exact owned.frozen other old
    · rw [List.mem_singleton.mp new]
      simp [Course.moved, World.frozen?, World.sink?, World.enlist, sink, phase, Session.isClosed,
        Sink.start]

theorem Lawful.opened (lawful : Lawful c) (found : c.world.router? session.router = some router)
    (sink : session.sink = ⟨c.world.sinks.length⟩)
    (phase : session.phase = .capturing ⟨router.nextNumber⟩) :
    Lawful (c.moved (c.world.enlist router wall session)) := by
  refine ⟨lawful.tabled.enlisted wall found phase, lawful.owned.enlisted wall sink phase, ?_⟩
  intro other member
  rcases List.mem_append.mp member with old | new
  · exact lawful.begun other old
  · rw [List.mem_singleton.mp new, phase]
    exact Phase.noConfusion

end enlisted

/-! ### Detaching -/

/-- An entry that is replaced by one that no longer counts leaves the rest as it was. -/
theorem perm_filterMap_set {α β : Type} {f : α → Option β} {items : List α} {place : Nat}
    {old new : α} (found : items[place]? = some old) (gone : f new = none) :
    (items.filterMap f).Perm ((f old).toList ++ (items.set place new).filterMap f) := by
  induction items generalizing place with
  | nil => simp at found
  | cons item rest ih =>
    cases place with
    | zero =>
      obtain rfl : item = old := by simpa using found
      cases counted : f item <;> simp [gone, counted]
    | succ place =>
      have tail := ih (by simpa using found)
      cases counted : f item with
      | none => simpa [counted] using tail
      | some value =>
        simp only [List.set_cons_succ, List.filterMap_cons, counted]
        exact (tail.cons value).trans List.perm_middle.symm

/-- Filtering by a number takes out the one route that has it, if there is one. -/
theorem perm_filter_id {table rest : List Route} {lost : Option Route} {id : RouteId}
    (held : table.Perm (lost.toList ++ rest)) (numbered : (table.map Route.id).Nodup)
    (named : ∀ route ∈ lost, route.id = id)
    (spent : lost = none → ∀ route ∈ table, route.id ≠ id) :
    (table.filter (·.id != id)).Perm rest := by
  cases lost with
  | none =>
    have all : table.filter (·.id != id) = table :=
      List.filter_eq_self.mpr fun route member => bne_iff_ne.mpr (spent rfl route member)
    rw [all]
    exact held
  | some route =>
    have same := named route rfl
    -- The others have other numbers, so that the filter leaves them alone.
    have alone := (held.map Route.id).nodup_iff.mp numbered
    simp only [Option.toList_some, List.singleton_append, List.map_cons, List.nodup_cons] at alone
    have others : rest.filter (·.id != id) = rest := by
      refine List.filter_eq_self.mpr fun other member => bne_iff_ne.mpr fun equal => alone.1 ?_
      rw [same, ← equal]
      exact List.mem_map_of_mem member
    have filtered := held.filter (·.id != id)
    simpa [same, others] using filtered

/-- A route may be taken out of a table with the handle or the session that it belongs to, and so
may one that is not in the table. -/
theorem Tabled.shrunk {c d : Course} (tabled : Tabled c) {id : RouterId} {gone : RouteId}
    (tables : ∀ other, d.world.table other =
      if other = id then (c.world.table other).filter (·.id != gone) else c.world.table other)
    (numbers : ∀ other, d.world.nextRoute other = c.world.nextRoute other)
    (lost : RouterId → Option Route)
    (held : ∀ other, (c.routesOf other).Perm ((lost other).toList ++ d.routesOf other))
    (elsewhere : ∀ other, other ≠ id → lost other = none)
    (named : ∀ route ∈ lost id, route.id = gone)
    (missing : lost id = none → ∀ route ∈ c.world.table id, route.id ≠ gone)
    (handles : ∀ handle ∈ d.handles, handle.attached = false →
      handle ∈ c.handles ∨
        handle.router = id ∧ handle.route.id = gone ∧ gone.number < c.world.nextRoute id) :
    Tabled d := by
  have before (other : RouterId) := (tabled.held other).trans (held other)
  -- No table gains a route, which is all that order and numbering need.
  have subset (other : RouterId) : (d.world.table other).Sublist (c.world.table other) := by
    rw [tables]
    split
    · exact List.filter_sublist
    · exact List.Sublist.refl _
  constructor
  · intro other
    rw [tables]
    split
    · next here =>
      subst here
      exact perm_filter_id (before other) (tabled.numbered other) named missing
    · next apart =>
      have same := before other
      rw [elsewhere other apart] at same
      exact same
  · exact fun other => ((subset other).map Route.id).nodup (tabled.numbered other)
  · intro other route member
    rw [numbers]
    exact tabled.below other route ((subset other).subset member)
  · intro handle member detached
    rw [numbers]
    obtain old | ⟨here, same, below⟩ := handles handle member detached
    · obtain ⟨below, apart⟩ := tabled.spent handle old detached
      exact ⟨below, fun route there => apart route ((subset _).subset there)⟩
    · subst here
      subst same
      refine ⟨below, fun route there => ?_⟩
      rw [tables, if_pos rfl] at there
      exact bne_iff_ne.mp (List.mem_filter.mp there).2

/-- The route of an attached handle is in the table of its router. -/
theorem Tabled.mem_table {c : Course} (tabled : Tabled c) {handle : Handle}
    (member : handle ∈ c.handles) (attached : handle.attached = true) :
    handle.route ∈ c.world.table handle.router := by
  have here : handle.routeOn? handle.router = some handle.route := if_pos ⟨attached, rfl⟩
  have listed : handle.route ∈ c.routesOf handle.router :=
    List.mem_append_left _ (List.mem_filterMap.mpr ⟨handle, member, here⟩)
  exact (tabled.held _).mem_iff.mpr listed

/-- Attached or not, a handle has a number that was given out before. -/
theorem Tabled.handle_below {c : Course} (tabled : Tabled c) {handle : Handle}
    (member : handle ∈ c.handles) :
    handle.route.id.number < c.world.nextRoute handle.router := by
  cases attached : handle.attached with
  | true => exact tabled.below _ _ (tabled.mem_table member attached)
  | false => exact (tabled.spent handle member attached).1

theorem Lawful.detach {c : Course} (lawful : Lawful c) {place : Nat} {handle : Handle}
    (found : c.handles[place]? = some handle) :
    Lawful
      { c with
        world := (c.world.detach handle.router handle.route.id).1
        handles := c.handles.set place { handle with attached := false } } := by
  have member := List.mem_of_getElem? found
  have sessions := World.sessions_detach c.world handle.router handle.route.id
  have moved (id : RouterId) := perm_filterMap_set (f := (·.routeOn? id)) found
    (show ({ handle with attached := false } : Handle).routeOn? id = none by simp [Handle.routeOn?])
  have here : handle.routeOn? handle.router = if handle.attached then some handle.route else none :=
    by simp [Handle.routeOn?]
  have below := lawful.tabled.handle_below member
  refine ⟨?_, ?_, by rw [sessions]; exact lawful.begun⟩
  · apply lawful.tabled.shrunk (World.table_detach c.world handle.router · handle.route.id)
      (World.nextRoute_detach c.world handle.router · handle.route.id) (handle.routeOn? ·)
    · intro id
      simp only [Course.routesOf, sessions, ← List.append_assoc]
      exact (moved id).append_right _
    · intro id apart
      simp [Handle.routeOn?, Ne.symm apart]
    · intro route there
      rw [here] at there
      split at there
      · rw [← Option.some.inj there]
      · contradiction
    · intro detached
      refine (lawful.tabled.spent handle member ?_).2
      simpa [here] using detached
    · intro other there _
      rcases List.mem_or_eq_of_mem_set there with old | rfl
      · exact .inl old
      · exact .inr ⟨rfl, rfl, below⟩
  · have seals (other : SinkId) :=
      World.frozen?_of_sink? (c.world.sink?_detach handle.router handle.route.id other)
    refine lawful.owned.kept (c := c) rfl sessions ?_ ?_ fun other _ => seals other
    · intro other there
      rcases List.mem_or_eq_of_mem_set there with old | rfl
      · exact ⟨other, old, rfl⟩
      · exact ⟨handle, member, rfl⟩
    · exact fun other there => by rw [seals]; exact there

/-! ### Closing -/

theorem Lawful.capturing {c : Course} (lawful : Lawful c) {session : Session}
    (member : session ∈ c.world.sessions) (unclosed : session.isClosed = false) :
    ∃ route, session.phase = .capturing route := by
  cases phase : session.phase with
  | armed => exact absurd phase (lawful.begun session member)
  | capturing route => exact ⟨route, rfl⟩
  | closed => simp [Session.isClosed, phase] at unclosed

theorem Owned.ref_eq {c : Course} (owned : Owned c) {first second : SessionRef}
    {session other : Session} (found : c.world.session? first = some session)
    (there : c.world.session? second = some other) (same : session.sink = other.sink) :
    first = second := by
  obtain ⟨i⟩ := first
  obtain ⟨j⟩ := second
  unfold World.session? at found there
  have bound := (List.getElem?_eq_some_iff.mp found).1
  have sinks : (c.world.sessions.map Session.sink)[i]? = (c.world.sessions.map Session.sink)[j]? := by
    simp [found, there, same]
  rw [(List.getElem?_inj (by simpa using bound) owned.apart).mp sinks]

theorem Owned.mem_set {c : Course} (owned : Owned c) {ref : SessionRef}
    {session changed other : Session} (found : c.world.session? ref = some session)
    (member : other ∈ c.world.sessions.set ref.index changed) :
    other = changed ∨ other ∈ c.world.sessions ∧ other.sink ≠ session.sink := by
  obtain ⟨i, there⟩ := List.mem_iff_getElem?.mp member
  by_cases here : ref.index = i
  · have bound := (List.getElem?_eq_some_iff.mp found).1
    subst here
    rw [List.getElem?_set_self bound] at there
    exact .inl (Option.some.inj there).symm
  · rw [List.getElem?_set_ne here] at there
    refine .inr ⟨List.mem_of_getElem? there, fun same => here ?_⟩
    have unique : ref = ⟨i⟩ := owned.ref_eq found there same.symm
    rw [unique]

section retired

variable {c : Course} {ref : SessionRef} {session : Session} {route : RouteId}

theorem Tabled.retired (tabled : Tabled c) (found : c.world.session? ref = some session)
    (phase : session.phase = .capturing route) :
    Tabled (c.moved (c.world.retire ref session)) := by
  have sessions := World.sessions_retire c.world ref session
  have removed (id : RouterId) := perm_filterMap_set (f := (·.routeOn? id)) found
    (show ({ session with phase := .closed } : Session).routeOn? id = none from rfl)
  apply tabled.shrunk (World.table_retire c.world ref phase)
    (World.nextRoute_retire c.world ref phase) (session.routeOn? ·)
  · intro id
    simp only [Course.routesOf, Course.moved, sessions]
    refine ((removed id).append_left _).trans ?_
    rw [← List.append_assoc, ← List.append_assoc]
    exact List.perm_append_comm.append_right _
  · intro id apart
    simp [Session.routeOn?, phase, Ne.symm apart]
  · intro attached there
    simp only [Session.routeOn?, phase, if_true] at there
    rw [← Option.some.inj there]
  · intro missing
    simp [Session.routeOn?, phase] at missing
  · exact fun handle there _ => .inl there

theorem Owned.retired (owned : Owned c) (found : c.world.session? ref = some session) :
    Owned (c.moved (c.world.retire ref session)) := by
  have member := World.mem_of_session? found
  have sessions := World.sessions_retire c.world ref session
  have seals := World.frozen?_retire c.world ref session
  have others {other : Session} (there : other ∈ (c.world.retire ref session).sessions) :=
    owned.mem_set found (sessions ▸ there)
  constructor
  · intro id own
    rw [Course.moved, seals, if_neg]
    · exact owned.made id own
    · rintro rfl
      exact owned.foreign session member own
  · exact owned.routed
  · intro other there
    obtain rfl | ⟨old, _⟩ := others there
    · exact owned.foreign session member
    · exact owned.foreign other old
  · -- A closed session keeps its sink, so the sinks are the same list as before.
    have there : (c.world.sessions.map Session.sink)[ref.index]? = some session.sink := by
      simp [show c.world.sessions[ref.index]? = some session from found]
    obtain ⟨bound, same⟩ := List.getElem?_eq_some_iff.mp there
    have sinks : (c.world.retire ref session).sessions.map Session.sink =
        c.world.sessions.map Session.sink := by
      rw [sessions, List.map_set, ← same, List.set_getElem_self]
    rw [Course.moved, sinks]
    exact owned.apart
  · intro other there
    rw [Course.moved, seals]
    obtain rfl | ⟨old, apart⟩ := others there
    · rw [if_pos rfl, owned.frozen session member]
      rfl
    · rw [if_neg apart]
      exact owned.frozen other old

theorem Lawful.closed (lawful : Lawful c) (found : c.world.session? ref = some session)
    (unclosed : session.isClosed = false) : Lawful (c.moved (c.world.retire ref session)) := by
  obtain ⟨route, phase⟩ := lawful.capturing (World.mem_of_session? found) unclosed
  refine ⟨lawful.tabled.retired found phase, lawful.owned.retired found, ?_⟩
  intro other there
  rw [Course.moved, World.sessions_retire] at there
  obtain rfl | ⟨old, _⟩ := lawful.owned.mem_set found there
  · exact Phase.noConfusion
  · exact lawful.begun other old

end retired

/-! ### Runs -/

theorem Move.lawful {a b : Course} (step : Move a b) (lawful : Lawful a) : Lawful b := by
  cases step with
  | idle sinks routers sessions =>
    have steady : World.Steady a.world _ :=
      ⟨routers, sessions, fun id => World.frozen?_of_sink? (by simp only [World.sink?, sinks])⟩
    exact lawful.steady rfl rfl steady
  | newRouter ownEvents => exact lawful.newRouter ownEvents
  | newSink wall => exact lawful.newSink wall
  | touch own sink => exact lawful.touch own sink
  | attach found own patterns least => exact lawful.attach found own patterns least
  | detach found => exact lawful.detach found
  | opened wall found sink phase => exact (lawful.opened wall found sink phase).noted _
  | drained found => exact lawful.steady rfl rfl (World.steady_drain a.world _)
  | closed found unclosed => exact (lawful.closed found unclosed).noted _

theorem Later.lawful {a b : Course} (later : Later a b) (lawful : Lawful a) : Lawful b := by
  induction later with
  | rest => exact lawful
  | move _ step ih => exact step.lawful ih
  | emit since router event _ ih =>
    -- What was selected may be out of date, but recording in any sinks does no harm.
    exact ih.steady rfl rfl (World.steady_recordAll _ _ event)

theorem Passage.lawful {a b : Course} (passage : Passage a b) (lawful : Lawful a) : Lawful b :=
  passage.later.lawful lawful

/-- Every state of a run is lawful. -/
theorem lawful_of_mem_trail {origin : Instant} {actions : List Action} {c : Course}
    (reached : c ∈ trail actions (Course.start origin)) : Lawful c :=
  ((trail_passed (Course.start origin) actions).reached c reached).lawful (lawful_start origin)

/-! ### Sessions and their routes -/

theorem filter_routes_eq {sessions : List Session} (apart : (sessions.map Session.sink).Nodup)
    {session : Session} (member : session ∈ sessions) (id : RouterId) :
    (sessions.filterMap (·.routeOn? id)).filter (·.sink == session.sink) =
      (session.routeOn? id).toList := by
  have leads {other : Session} {route : Route} (attached : other.routeOn? id = some route) :
      route.sink = other.sink := (of_session_route attached).2.2
  induction sessions with
  | nil => contradiction
  | cons first rest ih =>
    obtain ⟨alone, apart⟩ := List.nodup_cons.mp apart
    rcases List.mem_cons.mp member with rfl | later
    · -- No route of the others leads to the sink of the first.
      have none_else : (rest.filterMap (·.routeOn? id)).filter (·.sink == session.sink) = [] := by
        refine List.filter_eq_nil_iff.mpr fun route there same => alone ?_
        obtain ⟨other, among, attached⟩ := List.mem_filterMap.mp there
        rw [← beq_iff_eq.mp same, leads attached]
        exact List.mem_map_of_mem among
      cases attached : session.routeOn? id with
      | none => simpa [attached] using none_else
      | some route => simp [attached, leads attached, none_else]
    · have different : first.sink ≠ session.sink := fun same =>
        alone (same ▸ List.mem_map_of_mem later)
      have tail := ih apart later
      cases attached : first.routeOn? id with
      | none => simpa [attached] using tail
      | some route => simpa [attached, leads attached, different] using tail

/-- The only route that leads to the sink of a session is the one by which it is attached. -/
theorem Lawful.leading {c : Course} (lawful : Lawful c) {session : Session}
    (member : session ∈ c.world.sessions) (id : RouterId) :
    (c.world.table id).filter (·.sink == session.sink) = (session.routeOn? id).toList := by
  have owned := lawful.owned
  -- The routes of the client lead to its own sinks, and this one is not among them.
  have own : (c.handles.filterMap (·.routeOn? id)).filter (·.sink == session.sink) = [] := by
    refine List.filter_eq_nil_iff.mpr fun route there same => ?_
    obtain ⟨handle, among, attached⟩ := List.mem_filterMap.mp there
    apply owned.foreign session member
    rw [← beq_iff_eq.mp same, ← (of_handle_route attached).2.2]
    exact owned.routed handle among
  have held := (lawful.tabled.held id).filter (·.sink == session.sink)
  rw [Course.routesOf, List.filter_append, own, filter_routes_eq owned.apart member] at held
  cases attached : session.routeOn? id with
  | none =>
    rw [attached] at held
    exact held.eq_nil
  | some route =>
    rw [attached] at held
    exact List.perm_singleton.mp held

def Course.attachedTo (c : Course) (id : RouterId) : Nat :=
  c.handles.countP fun handle => handle.attached && handle.router == id

def Course.capturingOn (c : Course) (id : RouterId) : Nat :=
  c.world.sessions.countP fun session =>
    session.router == id && session.phase matches .capturing _

theorem Lawful.routeCount {c : Course} (lawful : Lawful c) (id : RouterId) :
    c.world.routeCount id = c.attachedTo id + c.capturingOn id := by
  have handles : (c.handles.filterMap (·.routeOn? id)).length = c.attachedTo id := by
    rw [List.length_filterMap_eq_countP]
    refine congrArg (List.countP · c.handles) (funext fun handle => ?_)
    cases attached : handle.attached <;> by_cases same : handle.router = id <;>
      simp [Handle.routeOn?, attached, same]
  have sessions : (c.world.sessions.filterMap (·.routeOn? id)).length = c.capturingOn id := by
    rw [List.length_filterMap_eq_countP]
    refine congrArg (List.countP · c.world.sessions) (funext fun session => ?_)
    cases phase : session.phase <;> by_cases same : session.router = id <;>
      simp [Session.routeOn?, phase, same]
  rw [World.routeCount_eq, (lawful.tabled.held id).length_eq, Course.routesOf, List.length_append,
    handles, sessions]

theorem Lawful.leftover {c : Course} (lawful : Lawful c) {id : RouterId}
    (closed : ∀ session ∈ c.world.sessions, session.router = id → session.isClosed)
    {route : Route} (there : route ∈ c.world.table id) :
    ∃ handle ∈ c.handles, handle.attached ∧ handle.router = id ∧ handle.route = route := by
  rcases List.mem_append.mp ((lawful.tabled.held id).mem_iff.mp there) with own | others
  · obtain ⟨handle, member, attached⟩ := List.mem_filterMap.mp own
    exact ⟨handle, member, of_handle_route attached⟩
  · obtain ⟨session, member, attached⟩ := List.mem_filterMap.mp others
    obtain ⟨unclosed, same, _⟩ := of_session_route attached
    have ended := closed session member same
    rw [unclosed] at ended
    contradiction

end Client

end EventCapture
