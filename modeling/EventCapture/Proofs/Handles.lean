import EventCapture.Proofs.Waiting

/-! Handles of routes, and what detaching by one does.

Every route of a router has a number above those of all routes attached before it, and a number is
never used again. So a table is in the order of attachment, a handle is good for the one route that
it was given out for, and only until it is used for the first time.
-/

set_option autoImplicit false

namespace EventCapture

namespace World

/-- A route that is in no table of the router cannot be detached from it. -/
theorem detach_of_absent {w : World} {id : RouterId} {route : RouteId}
    (absent : ∀ other ∈ w.table id, other.id ≠ route) : w.detach id route = (w, false) := by
  unfold detach
  cases found : w.router? id with
  | none => rfl
  | some router =>
    rw [table_of_router found] at absent
    have kept : router.routes.filter (·.id != route) = router.routes :=
      List.filter_eq_self.mpr fun other member => bne_iff_ne.mpr (absent other member)
    have missed : router.routes.any (·.id == route) = false := by
      rw [List.any_eq_false]
      exact fun other member => by simpa using absent other member
    simp only [Router.detach, kept, missed, setRouter_self found]

/-- One world comes from another by taking one route out of the table of a router. All other routes
of the table, and all else, are left as they were. -/
def Removes (w v : World) (id : RouterId) (route : Route) : Prop :=
  ∃ router front back, w.router? id = some router ∧ router.routes = front ++ route :: back ∧
    v = w.setRouter id { router with routes := front ++ back }

theorem detach_of_present {w : World} {id : RouterId} {route : Route}
    (numbered : ((w.table id).map Route.id).Nodup) (held : route ∈ w.table id) :
    (w.detach id route.id).2 = true ∧ Removes w (w.detach id route.id).1 id route := by
  unfold detach
  cases found : w.router? id with
  | none => simp [table, found] at held
  | some router =>
    rw [table_of_router found] at numbered held
    obtain ⟨front, back, split⟩ := List.append_of_mem held
    rw [split, List.map_append, List.map_cons, List.nodup_append, List.nodup_cons] at numbered
    obtain ⟨_, ⟨behind, _⟩, apart⟩ := numbered
    -- No other route has its number, so that the filter takes out this one alone.
    have before : front.filter (·.id != route.id) = front := by
      refine List.filter_eq_self.mpr fun other member => bne_iff_ne.mpr ?_
      exact apart other.id (List.mem_map_of_mem member) route.id List.mem_cons_self
    have after : back.filter (·.id != route.id) = back := by
      refine List.filter_eq_self.mpr fun other member => bne_iff_ne.mpr fun same => behind ?_
      rw [← same]
      exact List.mem_map_of_mem member
    have removed : router.routes.filter (·.id != route.id) = front ++ back := by
      simp [split, before, after]
    have present : router.routes.any (·.id == route.id) = true :=
      List.any_eq_true.mpr ⟨route, held, beq_self_eq_true _⟩
    refine ⟨present, router, front, back, found, split, ?_⟩
    simp only [Router.detach, removed]

end World

namespace Client

/-! ### The order of attachment -/

/-- What a handle was given out for, whether or not it was used since. -/
def Handle.given (handle : Handle) : RouterId × Route := (handle.router, handle.route)

/-- Of two routes the one attached later has the higher number. -/
def Ascending (routes : List Route) : Prop := routes.Pairwise (·.id.number < ·.id.number)

theorem Ascending.concat {routes : List Route} (ascending : Ascending routes) {route : Route}
    (last : ∀ other ∈ routes, other.id.number < route.id.number) :
    Ascending (routes ++ [route]) := by
  refine List.pairwise_append.mpr ⟨ascending, List.pairwise_singleton _ _, ?_⟩
  intro other member _ new
  rw [List.mem_singleton.mp new]
  exact last other member

theorem Ascending.eq_of_perm {routes others : List Route} (first : Ascending routes)
    (second : Ascending others) (same : routes.Perm others) : routes = others :=
  List.Perm.eq_of_pairwise (fun _ _ _ _ below above => absurd below (Nat.lt_asymm above)) first
    second same

/-- Tables and handles are in the order of attachment. -/
structure Ordered (c : Course) : Prop where
  tables : ∀ id, Ascending (c.world.table id)
  handles : (c.handles.map Handle.given).Pairwise fun first second =>
    first.1 = second.1 → first.2.id.number < second.2.id.number

theorem ordered_start (origin : Instant) : Ordered (Course.start origin) := by
  constructor
  · intro id
    rw [Course.start, World.table_start]
    exact .nil
  · exact .nil

namespace Ordered

variable {c d : Course}

/-- Routes may be taken out of tables. -/
theorem shrunk (ordered : Ordered c)
    (tables : ∀ id, (d.world.table id).Sublist (c.world.table id))
    (handles : d.handles.map Handle.given = c.handles.map Handle.given) : Ordered d := by
  constructor
  · exact fun id => (ordered.tables id).sublist (tables id)
  · rw [handles]
    exact ordered.handles

theorem same (ordered : Ordered c) (routers : d.world.routers = c.world.routers)
    (handles : d.handles = c.handles) : Ordered d := by
  apply ordered.shrunk
  · intro id
    exact World.table_of_routers routers id ▸ .refl _
  · rw [handles]

/-- A route with the next number may be added to a table. -/
theorem table_grown (ordered : Ordered c) (tabled : Tabled c) {id : RouterId} {route : Route}
    (next : route.id.number = c.world.nextRoute id)
    (tables : ∀ other,
      d.world.table other = c.world.table other ++ if other = id then [route] else [])
    (other : RouterId) : Ascending (d.world.table other) := by
  rw [tables]
  split
  · next here =>
    subst here
    refine (ordered.tables other).concat fun held member => ?_
    rw [next]
    exact tabled.below other held member
  · rw [List.append_nil]
    exact ordered.tables other

/-- A handle for the next number may be given out. -/
theorem handle_given (ordered : Ordered c) (tabled : Tabled c) {handle : Handle}
    (next : handle.route.id.number = c.world.nextRoute handle.router) :
    ((c.handles ++ [handle]).map Handle.given).Pairwise fun first second =>
      first.1 = second.1 → first.2.id.number < second.2.id.number := by
  rw [List.map_append]
  refine List.pairwise_append.mpr ⟨ordered.handles, List.pairwise_singleton _ _, ?_⟩
  intro first old second new router
  obtain ⟨former, member, rfl⟩ := List.mem_map.mp old
  obtain rfl := List.mem_singleton.mp new
  have below := tabled.handle_below member
  rw [show former.router = handle.router from router, ← next] at below
  exact below

end Ordered

theorem given_of_set {handles : List Handle} {place : Nat} {handle : Handle}
    (held : handles[place]? = some handle) (attached : Bool) :
    (handles.set place { handle with attached := attached }).map Handle.given =
      handles.map Handle.given := by
  have same : (handles.map Handle.given)[place]? = some handle.given := by
    rw [List.getElem?_map, held, Option.map_some]
  obtain ⟨bound, there⟩ := List.getElem?_eq_some_iff.mp same
  rw [List.map_set]
  exact (congrArg _ there.symm).trans (List.set_getElem_self bound)

theorem Move.ordered {a b : Course} (step : Move a b) (lawful : Lawful a) (ordered : Ordered a) :
    Ordered b := by
  cases step with
  | idle sinks routers sessions => exact ordered.same routers rfl
  | newRouter ownEvents =>
    exact ordered.shrunk (fun id => World.table_newRouter a.world ownEvents id ▸ .refl _) rfl
  | newSink wall => exact ordered.same rfl rfl
  | touch own sink => exact ordered.same rfl rfl
  | attach found own patterns least =>
    have next := (World.nextRoute_of_router found).symm
    exact ⟨ordered.table_grown lawful.tabled next (World.table_attached found patterns least _),
      ordered.handle_given lawful.tabled next⟩
  | @detach place handle held =>
    refine ordered.shrunk (fun id => ?_) (given_of_set held false)
    rw [World.table_detach]
    split
    · exact List.filter_sublist
    · exact .refl _
  | @opened router session wall found sink phase =>
    let route : Route := ⟨⟨router.nextNumber⟩, session.patterns, session.least, session.sink⟩
    have next : route.id.number = a.world.nextRoute session.router :=
      (World.nextRoute_of_router found).symm
    refine ⟨ordered.table_grown lawful.tabled next fun other => ?_, ordered.handles⟩
    exact (World.table_of_routers rfl other).trans (World.table_attached found _ _ _ other)
  | drained found => exact ordered.same (World.steady_drain a.world _).routers rfl
  | @closed ref session found unclosed =>
    obtain ⟨route, phase⟩ := lawful.capturing (World.mem_of_session? found) unclosed
    refine ordered.shrunk (fun id => ?_) rfl
    rw [Course.noted, Course.moved, World.table_retire a.world ref phase]
    split
    · exact List.filter_sublist
    · exact .refl _

theorem Later.ordered {a b : Course} (later : Later a b) (lawful : Lawful a)
    (ordered : Ordered a) : Ordered b := by
  induction later with
  | rest => exact ordered
  | move first step ih => exact step.ordered (first.lawful lawful) ih
  | emit since router event _ ih =>
    exact ih.same (World.steady_recordAll _ _ event).routers rfl

/-! ### Tables and handles -/

/-- Of the handles on one router no two are the same. -/
theorem Ordered.distinct {c : Course} (ordered : Ordered c) :
    c.handles.Pairwise fun first second =>
      first.router = second.router → first.route.id ≠ second.route.id := by
  refine (List.pairwise_map.mp ordered.handles).imp fun {first second} later router same => ?_
  have below : first.route.id.number < second.route.id.number := later router
  rw [same] at below
  exact Nat.lt_irrefl _ below

theorem Ordered.ascending_handles {c : Course} (ordered : Ordered c) (id : RouterId) :
    Ascending (c.handles.filterMap (·.routeOn? id)) := by
  have ordered := List.pairwise_map.mp ordered.handles
  refine List.Pairwise.filterMap _ (fun first second later route attached other also => ?_) ordered
  obtain ⟨_, here, rfl⟩ := of_handle_route attached
  obtain ⟨_, there, rfl⟩ := of_handle_route also
  exact later (here.trans there.symm)

/-- Of the routes in a table those that lead to the client's own sinks are those of its handles that
are attached, in the order in which they were given out. -/
theorem Lawful.own_routes {c : Course} (lawful : Lawful c) (ordered : Ordered c) (id : RouterId) :
    (c.world.table id).filter (fun route => decide (route.sink ∈ c.sinks)) =
      c.handles.filterMap (·.routeOn? id) := by
  have owned := lawful.owned
  have own : (c.handles.filterMap (·.routeOn? id)).filter
      (fun route => decide (route.sink ∈ c.sinks)) = c.handles.filterMap (·.routeOn? id) := by
    refine List.filter_eq_self.mpr fun route there => decide_eq_true ?_
    obtain ⟨handle, member, attached⟩ := List.mem_filterMap.mp there
    rw [← (of_handle_route attached).2.2]
    exact owned.routed handle member
  have foreign : (c.world.sessions.filterMap (·.routeOn? id)).filter
      (fun route => decide (route.sink ∈ c.sinks)) = [] := by
    refine List.filter_eq_nil_iff.mpr fun route there leads => ?_
    obtain ⟨session, member, attached⟩ := List.mem_filterMap.mp there
    rw [(of_session_route attached).2.2] at leads
    exact owned.foreign session member (of_decide_eq_true leads)
  -- The table holds the same routes in some order, and both lists are in the order of the numbers.
  have held := (lawful.tabled.held id).filter fun route => decide (route.sink ∈ c.sinks)
  rw [Course.routesOf, List.filter_append, own, foreign, List.append_nil] at held
  have listed : Ascending
      ((c.world.table id).filter fun route => decide (route.sink ∈ c.sinks)) :=
    (ordered.tables id).sublist List.filter_sublist
  exact listed.eq_of_perm (ordered.ascending_handles id) held

/-- Where no session captures, a table is the routes of the attached handles. -/
theorem Lawful.table_eq {c : Course} (lawful : Lawful c) (ordered : Ordered c) {id : RouterId}
    (closed : ∀ session ∈ c.world.sessions, session.router = id → session.isClosed) :
    c.world.table id = c.handles.filterMap (·.routeOn? id) := by
  rw [← lawful.own_routes ordered]
  refine (List.filter_eq_self.mpr fun route there => decide_eq_true ?_).symm
  obtain ⟨handle, member, _, _, rfl⟩ := lawful.leftover closed there
  exact lawful.owned.routed handle member

/-- What detaching by a handle does: it takes out the route of the handle, unless it was used for
that before, and then it does nothing. -/
structure Detaches (w : World) (handle : Handle) : Prop where
  attached : handle.attached = true →
    (w.detach handle.router handle.route.id).2 = true ∧
      w.Removes (w.detach handle.router handle.route.id).1 handle.router handle.route
  spent : handle.attached = false → w.detach handle.router handle.route.id = (w, false)

theorem Lawful.detaches {c : Course} (lawful : Lawful c) {handle : Handle}
    (member : handle ∈ c.handles) : Detaches c.world handle where
  attached := fun attached => World.detach_of_present (lawful.tabled.numbered _)
    (lawful.tabled.mem_table member attached)
  spent := fun detached => World.detach_of_absent (lawful.tabled.spent handle member detached).2

/-! ### What becomes of handles -/

/-- Whether the handle at a place has been used to detach its route. -/
def Course.Spent (c : Course) (place : Nat) : Prop :=
  (c.handles[place]?).map Handle.attached = some false

theorem spent_of_handles {a b : Course} (same : b.handles = a.handles) (place : Nat) :
    b.Spent place ↔ a.Spent place := by
  rw [Course.Spent, same]
  rfl

/-- A later state of a run still has all handles, for the routes that they were given out for. -/
structure HandsOn (before after : Course) : Prop where
  given : before.handles.map Handle.given <+: after.handles.map Handle.given
  spent : ∀ place, before.Spent place → after.Spent place

theorem HandsOn.trans {a b c : Course} (first : HandsOn a b) (second : HandsOn b c) :
    HandsOn a c where
  given := first.given.trans second.given
  spent := fun place before => second.spent place (first.spent place before)

theorem handsOn_of_handles {a b : Course} (same : b.handles = a.handles) : HandsOn a b := by
  have given : b.handles.map Handle.given = a.handles.map Handle.given := by rw [same]
  exact ⟨given ▸ List.prefix_refl _, fun place => (spent_of_handles same place).mpr⟩

theorem spent_grown {a b : Course} {handle : Handle} (grown : b.handles = a.handles ++ [handle])
    (attached : handle.attached = true) (place : Nat) : b.Spent place ↔ a.Spent place := by
  unfold Course.Spent
  rw [grown, List.getElem?_append]
  split
  · exact Iff.rfl
  · next beyond =>
    rw [List.getElem?_eq_none (Nat.le_of_not_lt beyond)]
    simp [List.getElem?_singleton, attached]

theorem spent_set {a b : Course} {place : Nat} {handle : Handle}
    (held : a.handles[place]? = some handle)
    (changed : b.handles = a.handles.set place { handle with attached := false }) (other : Nat) :
    b.Spent other ↔ a.Spent other ∨ other = place := by
  have bound := (List.getElem?_eq_some_iff.mp held).1
  unfold Course.Spent
  rw [changed, List.getElem?_set]
  split
  · next same => simp [← same, bound]
  · next another => simp [Ne.symm another]

theorem Move.handsOn {a b : Course} (step : Move a b) : HandsOn a b := by
  cases step with
  | @attach id router sink found own patterns least =>
    refine ⟨?_, fun place => (spent_grown rfl rfl place).mpr⟩
    rw [List.map_append]
    exact List.prefix_append _ _
  | detach held =>
    have given := given_of_set held false
    refine ⟨given ▸ List.prefix_refl _, fun place before => ?_⟩
    exact (spent_set held rfl place).mpr (.inl before)
  | _ => exact handsOn_of_handles rfl

theorem Later.handsOn {a b : Course} (later : Later a b) : HandsOn a b := by
  induction later with
  | rest => exact handsOn_of_handles rfl
  | move _ step ih => exact ih.trans step.handsOn
  | emit since router event _ ih => exact ih.trans (handsOn_of_handles rfl)

/-! ### Calls to detach -/

/-- A call to detach by the handle at a place, and the answer: whether the route was there. -/
structure Detaching where
  handle : Nat
  present : Bool
  deriving DecidableEq, Repr

mutual

/-- The calls to detach that an action makes, in order. -/
def Action.detachings : Action → Course → List Detaching
  | .detach place, c => (c.handles[place]?).toList.map fun handle =>
    ⟨place, (c.world.detach handle.router handle.route.id).2⟩
  | .dispatchWith router event nested, c =>
    if (c.world.select router event.logger event.level).isEmpty then [] else detachings nested c
  | .log router entry nested, c =>
    if (c.world.select router entry.logger entry.level).isEmpty then [] else detachings nested c
  | .within router nested, c => detachings nested (c.moved { c.world with subscriber := router })
  | _, _ => []

/-- The calls to detach of a run, in order. -/
def detachings : List Action → Course → List Detaching
  | [], _ => []
  | action :: rest, c => action.detachings c ++ detachings rest (action.run c)

end

/-- What the calls to detach between two states tell of the handles. -/
structure Recounts (before : Course) (calls : List Detaching) (after : Course) : Prop where
  spent : ∀ place, after.Spent place ↔ before.Spent place ∨ ∃ call ∈ calls, call.handle = place
  /-- A route is there for the first call by its handle, and for no other. -/
  present : ∀ earlier call later, calls = earlier ++ call :: later →
    (call.present = true ↔
      ¬ before.Spent call.handle ∧ ∀ other ∈ earlier, other.handle ≠ call.handle)

theorem recounts_nil {a b : Course} (same : ∀ place, b.Spent place ↔ a.Spent place) :
    Recounts a [] b := by
  refine ⟨fun place => by simpa using same place, ?_⟩
  intro earlier call later split
  exact absurd split.symm (by simp)

theorem Recounts.append {a b c : Course} {calls more : List Detaching}
    (first : Recounts a calls b) (second : Recounts b more c) : Recounts a (calls ++ more) c := by
  constructor
  · intro place
    rw [second.spent, first.spent]
    simp only [List.mem_append, or_and_right, exists_or, or_assoc]
  · intro earlier call later split
    -- The call is one of the second half, and all of the first half came before it, or it is one of
    -- the first half.
    obtain ⟨rest, rfl, others⟩ | ⟨rest, rfl, others⟩ := List.append_eq_append_iff.mp split
    · rw [second.present rest call later others, first.spent]
      simp only [List.forall_mem_append, not_or, not_exists, not_and, and_assoc]
    · cases rest with
      | nil =>
        rw [second.present [] call later others.symm, first.spent]
        simp
      | cons head tail =>
        obtain ⟨rfl, _⟩ := List.cons.inj others
        exact first.present earlier call tail rfl

/-- An emission uses no handle. -/
theorem Recounts.emit {a b : Course} {calls : List Detaching} (inner : Recounts a calls b)
    (since : Course) (router : RouterId) (event : Event) :
    Recounts a calls (b.emit since router event) :=
  ⟨inner.spent, inner.present⟩

theorem recounts_detach {c : Course} (lawful : Lawful c) (place : Nat) :
    Recounts c ((Action.detach place).detachings c) (c.detach place) := by
  unfold Course.detach
  rw [Action.detachings]
  cases held : c.handles[place]? with
  | none => exact recounts_nil fun _ => Iff.rfl
  | some handle =>
    have detaches := lawful.detaches (List.mem_of_getElem? held)
    have spent : c.Spent place ↔ handle.attached = false := by
      rw [Course.Spent, held, Option.map_some, Option.some.injEq]
    refine ⟨fun other => ?_, fun earlier call later split => ?_⟩
    · rw [spent_set held rfl]
      simp [eq_comm]
    · obtain rfl : earlier = [] := by
        cases earlier with
        | nil => rfl
        | cons => simp at split
      obtain ⟨rfl, _⟩ := List.cons.inj split
      dsimp only
      rw [spent]
      cases attached : handle.attached with
      | true => simp [(detaches.attached attached).1]
      | false => simp [detaches.spent attached]

theorem spent_attach (c : Course) (router : RouterId) (patterns : PatternSet) (least : Level)
    (sink place : Nat) : (c.attach router patterns least sink).Spent place ↔ c.Spent place := by
  unfold Course.attach
  split
  · exact Iff.rfl
  · unfold World.attach
    cases c.world.router? router with
    | none => exact Iff.rfl
    | some _ => exact spent_grown rfl rfl place

/-- An action that neither detaches nor runs anything nested uses no handle. -/
theorem Action.spent_of_ready (c : Course) {action : Action} (ready : action.isReady = true)
    (other : ∀ place, action ≠ .detach place) (place : Nat) :
    (action.run c).Spent place ↔ c.Spent place := by
  cases traffic : action.isTraffic with
  | true => exact spent_of_handles (action.heldSame_of_ready c ready traffic).handles place
  | false =>
    cases action with
    | advance => exact Iff.rfl
    | newSink =>
      rw [Action.run]
      split <;> exact Iff.rfl
    | attach router patterns least sink => exact spent_attach c router patterns least sink place
    | detach handle => exact absurd rfl (other handle)
    | waitFor ref filter policy =>
      obtain ⟨_, _, found | ⟨_, _, _, failed⟩⟩ := waitFor_cases c ref filter policy
      · rw [Action.run, found]
        exact Iff.rfl
      · rw [Action.run, failed]
        exact Iff.rfl
    | dispatchWith | log =>
      obtain rfl := List.isEmpty_iff.mp ready
      contradiction
    | within => contradiction
    | _ => contradiction

mutual

theorem Action.recounts {c : Course} (lawful : Lawful c) :
    (action : Action) → Recounts c (action.detachings c) (action.run c)
  | .dispatchWith router event nested => by
    rw [Action.detachings, run_dispatchWith]
    split
    · next unselected =>
      rw [if_pos (List.isEmpty_iff.mp unselected)]
      exact (recounts_nil fun _ => Iff.rfl).emit c router _
    · next selected =>
      rw [if_neg (by simpa using selected)]
      exact (recounts_all lawful nested).emit c router _
  | .log router entry nested => by
    rw [Action.detachings, run_log]
    split
    · next unselected =>
      rw [if_pos (List.isEmpty_iff.mp unselected)]
      exact (recounts_nil fun _ => Iff.rfl).emit c router _
    · next selected =>
      rw [if_neg (by simpa using selected)]
      exact (recounts_all lawful nested).emit c router _
  | .within router nested => by
    rw [Action.detachings, run_within]
    have entered : Move c (c.moved { c.world with subscriber := router }) := .idle rfl rfl rfl
    have inner := recounts_all (entered.lawful lawful) nested
    exact ⟨inner.spent, inner.present⟩
  | .detach place => recounts_detach lawful place
  | .advance _ | .newRouter _ | .newSink | .attach _ _ _ _ | .dispatch _ _ | .trace _
  | .record _ _ | .drainSink _ | .freeze _ | .openSession _ _ _ _ | .openWithSettings _ _ _
  | .drain _ | .waitFor _ _ _ | .close _ | .drop _ =>
    recounts_nil (Action.spent_of_ready c rfl fun _ => Action.noConfusion)

theorem recounts_all {c : Course} (lawful : Lawful c) :
    (actions : List Action) → Recounts c (detachings actions c) (runAll actions c)
  | [] => recounts_nil fun _ => Iff.rfl
  | action :: rest =>
    have after := (action.run_passage c).lawful lawful
    (action.recounts lawful).append (recounts_all after rest)

end

/-- Routes and handles as they are in every state of a run. -/
structure InOrder (c : Course) : Prop where
  distinct : c.handles.Pairwise fun first second =>
    first.router = second.router → first.route.id ≠ second.route.id
  /-- The client's own routes stand in a table in the order in which they were attached, without
  those that were detached since. -/
  own : ∀ id, (c.world.table id).filter (fun route => decide (route.sink ∈ c.sinks)) =
    c.handles.filterMap (·.routeOn? id)
  /-- Where no session captures there are no others. -/
  table : ∀ id, (∀ session ∈ c.world.sessions, session.router = id → session.isClosed) →
    c.world.table id = c.handles.filterMap (·.routeOn? id)
  detaches : ∀ handle ∈ c.handles, Detaches c.world handle

theorem Passage.inOrder {origin : Instant} {c : Course}
    (passage : Passage (Course.start origin) c) : InOrder c :=
  have lawful := passage.lawful (lawful_start origin)
  have ordered := passage.later.ordered (lawful_start origin) (ordered_start origin)
  { distinct := ordered.distinct
    own := lawful.own_routes ordered
    table := fun _ => lawful.table_eq ordered
    detaches := fun _ => lawful.detaches }

/-- Attaching never gives out a handle twice, and a table lists what was attached and not detached
since, in the order in which it was attached. The first call to detach by a handle takes out its
route and nothing else, wherever in a run the call is made, and every further call does nothing. -/
theorem handles_detach_once (origin : Instant) (actions : List Action) :
    let start := Course.start origin
    let calls := detachings actions start
    (∀ c ∈ trail actions start, InOrder c) ∧
      (trail actions start).Pairwise HandsOn ∧
      (∀ earlier call later, calls = earlier ++ call :: later →
        (call.present = true ↔ ∀ other ∈ earlier, other.handle ≠ call.handle)) ∧
      ∀ place handle, (runAll actions start).handles[place]? = some handle →
        (handle.attached = true ↔ ∀ call ∈ calls, call.handle ≠ place) := by
  intro start calls
  have passed := trail_passed start actions
  have recounts := recounts_all (lawful_start origin) actions
  have unspent (place : Nat) : ¬ start.Spent place := nofun
  refine ⟨fun c member => (passed.reached c member).inOrder,
    passed.ordered.imp Later.handsOn, fun earlier call later split => ?_,
    fun place handle held => ?_⟩
  · rw [recounts.present earlier call later split]
    exact and_iff_right (unspent call.handle)
  · have spent := recounts.spent place
    rw [or_iff_right (unspent place), Course.Spent, held, Option.map_some,
      Option.some.injEq] at spent
    rw [← Bool.not_eq_false, spent]
    simp only [not_exists, not_and, ne_eq]
    rfl

/-- While an event is built a route is detached and another one attached. Afterwards the old route
is detached once more, and then the new one. -/
def replaced (all : PatternSet) : List Action :=
  [.newSink, .attach World.processRouter all .trace 0, .attach World.processRouter all .info 0,
    .dispatchWith World.processRouter (Event.plain .info "app" "swap")
      [.detach 0, .attach World.processRouter all .warn 0, .detach 0],
    .detach 0, .detach 2]

theorem handles_detach_once_replaced :
    let actions := replaced ⟨[.any], by decide⟩
    let start := Course.start ⟨0, 0⟩
    let last := runAll actions start
    last ∈ trail actions start ∧
      last.world.table World.processRouter =
        last.handles.filterMap (·.routeOn? World.processRouter) ∧
      (last.world.table World.processRouter).map (·.id.number) = [2] ∧
      detachings actions start = [⟨0, true⟩, ⟨0, false⟩, ⟨0, false⟩, ⟨2, true⟩] ∧
      (true = true ↔ ∀ other ∈ [(⟨0, true⟩ : Detaching), ⟨0, false⟩, ⟨0, false⟩],
        other.handle ≠ 2) := by
  intro actions start last
  obtain ⟨inOrder, _, first, _⟩ := handles_detach_once ⟨0, 0⟩ actions
  have reached : last ∈ trail actions start := runAll_mem_trail actions start
  have closed : ∀ session ∈ last.world.sessions,
      session.router = World.processRouter → session.isClosed := by decide +kernel
  have calls : detachings actions start = [⟨0, true⟩, ⟨0, false⟩, ⟨0, false⟩, ⟨2, true⟩] := by
    decide +kernel
  exact ⟨reached, (inOrder last reached).table World.processRouter closed, by decide +kernel, calls,
    first [⟨0, true⟩, ⟨0, false⟩, ⟨0, false⟩] ⟨2, true⟩ [] calls⟩

end Client

end EventCapture
