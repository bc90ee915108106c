import EventCapture.Proofs.Operations

/-! Tables of routes, and which sinks are frozen, as the operations change them.

A router that does not exist has an empty table, so what is said of tables is said of all routers.
-/

set_option autoImplicit false

namespace EventCapture

namespace World

/-- The routes of a router, in their order. -/
def table (w : World) (id : RouterId) : List Route := (w.router? id).elim [] (·.routes)

/-- The number that the next route of a router gets. -/
def nextRoute (w : World) (id : RouterId) : Nat := (w.router? id).elim 0 (·.nextNumber)

/-- Whether a sink is frozen, if there is such a sink. -/
def frozen? (w : World) (id : SinkId) : Option Bool := (w.sink? id).map Sink.sealed

theorem routeCount_eq (w : World) (id : RouterId) : w.routeCount id = (w.table id).length := by
  unfold routeCount table
  cases w.router? id <;> rfl

/-- Whether a router routes events of this library itself, if there is such a router. -/
def ownEvents? (w : World) (id : RouterId) : Option Bool := (w.router? id).map (·.ownEvents)

/-- Whether a router keeps away from a logger name. -/
def ignores (w : World) (id : RouterId) (logger : String) : Bool :=
  (w.ownEvents? id).any fun own => !own && Router.isOwnName logger

theorem select_eq (w : World) (id : RouterId) (logger : String) (level : Level) :
    w.select id logger level =
      if w.ignores id logger then []
      else ((w.table id).filter (·.admits logger level)).map Route.sink := by
  unfold select table ignores ownEvents? Router.targets Router.ignores
  cases w.router? id <;> simp

/-! ### Routers -/

variable {w v : World} {id : RouterId}

theorem table_of_routers (same : v.routers = w.routers) (id : RouterId) :
    v.table id = w.table id := by
  simp only [table, router?, same]

theorem nextRoute_of_routers (same : v.routers = w.routers) (id : RouterId) :
    v.nextRoute id = w.nextRoute id := by
  simp only [nextRoute, router?, same]

theorem table_start (origin : Instant) (id : RouterId) : (start origin).table id = [] := by
  unfold table
  cases found : (start origin).router? id with
  | none => rfl
  | some router =>
    have only := List.mem_singleton.mp (List.mem_of_getElem? found)
    rw [only]
    rfl

theorem router?_newRouter_of_some {router : Router} (ownEvents : Bool)
    (found : w.router? id = some router) : (w.newRouter ownEvents).1.router? id = some router := by
  have bound := (List.getElem?_eq_some_iff.mp found).1
  exact (List.getElem?_append_left bound).trans found

theorem router?_newRouter_of_none {router : Router} {ownEvents : Bool}
    (missing : w.router? id = none)
    (found : (w.newRouter ownEvents).1.router? id = some router) :
    router = Router.empty ownEvents := by
  -- Only the new router can stand where there was none before.
  have bound := List.getElem?_eq_none_iff.mp missing
  have last : [Router.empty ownEvents][id.index - w.routers.length]? = some router :=
    (List.getElem?_append_right bound).symm.trans found
  exact List.mem_singleton.mp (List.mem_of_getElem? last)

theorem table_newRouter (w : World) (ownEvents : Bool) (id : RouterId) :
    (w.newRouter ownEvents).1.table id = w.table id := by
  unfold table
  cases found : w.router? id with
  | some router => rw [router?_newRouter_of_some ownEvents found]
  | none =>
    cases made : (w.newRouter ownEvents).1.router? id with
    | none => rfl
    | some router => rw [router?_newRouter_of_none found made]; rfl

theorem nextRoute_newRouter (w : World) (ownEvents : Bool) (id : RouterId) :
    w.nextRoute id ≤ (w.newRouter ownEvents).1.nextRoute id := by
  unfold nextRoute
  cases found : w.router? id with
  | some router => exact Nat.le_of_eq (by rw [router?_newRouter_of_some ownEvents found])
  | none => exact Nat.zero_le _

theorem ownEvents?_of_routers (same : v.routers = w.routers) (id : RouterId) :
    v.ownEvents? id = w.ownEvents? id := by
  simp only [ownEvents?, router?, same]

theorem ownEvents?_newRouter {own : Bool} (ownEvents : Bool) (known : w.ownEvents? id = some own) :
    (w.newRouter ownEvents).1.ownEvents? id = some own := by
  unfold ownEvents? at known ⊢
  cases found : w.router? id with
  | none => simp [found] at known
  | some router =>
    rw [router?_newRouter_of_some ownEvents found, ← found]
    exact known

section attached

variable {router : Router} (found : w.router? id = some router) (patterns : PatternSet)
  (least : Level) (sink : SinkId)

include found

theorem table_attached (other : RouterId) :
    (w.setRouter id (router.attach patterns least sink).1).table other =
      w.table other ++
        if other = id then [⟨⟨router.nextNumber⟩, patterns, least, sink⟩] else [] := by
  unfold table
  rw [router?_setRouter]
  split
  · next same => simp [same, found, Router.attach]
  · simp

theorem nextRoute_attached (other : RouterId) :
    (w.setRouter id (router.attach patterns least sink).1).nextRoute other =
      w.nextRoute other + if other = id then 1 else 0 := by
  unfold nextRoute
  rw [router?_setRouter]
  split
  · next same => simp [same, found, Router.attach]
  · simp

theorem ownEvents?_attached (other : RouterId) :
    (w.setRouter id (router.attach patterns least sink).1).ownEvents? other =
      w.ownEvents? other := by
  unfold ownEvents?
  rw [router?_setRouter]
  split
  · next same => simp [same, found, Router.attach]
  · rfl

theorem nextRoute_of_router : w.nextRoute id = router.nextNumber := by
  unfold nextRoute
  rw [found]
  rfl

theorem table_of_router : w.table id = router.routes := by
  rw [table, found, Option.elim_some]

end attached

theorem router?_detach (w : World) (id other : RouterId) (route : RouteId) :
    (w.detach id route).1.router? other =
      if other = id then (w.router? id).map fun router => (router.detach route).1
      else w.router? other := by
  unfold detach
  cases found : w.router? id with
  | none =>
    by_cases same : other = id
    · simp [same, found]
    · simp [same]
  | some router =>
    simp only [router?_setRouter, found]
    rfl

theorem table_detach (w : World) (id other : RouterId) (route : RouteId) :
    (w.detach id route).1.table other =
      if other = id then (w.table other).filter (·.id != route) else w.table other := by
  unfold table
  rw [router?_detach]
  split
  · next same =>
    subst same
    cases w.router? other <;> rfl
  · rfl

theorem nextRoute_detach (w : World) (id other : RouterId) (route : RouteId) :
    (w.detach id route).1.nextRoute other = w.nextRoute other := by
  unfold nextRoute
  rw [router?_detach]
  split
  · next same =>
    subst same
    cases w.router? other <;> rfl
  · rfl

theorem ownEvents?_detach (w : World) (id other : RouterId) (route : RouteId) :
    (w.detach id route).1.ownEvents? other = w.ownEvents? other := by
  unfold ownEvents?
  rw [router?_detach]
  split
  · next same =>
    subst same
    cases w.router? other <;> rfl
  · rfl

/-! ### Sinks -/

theorem frozen?_of_sink? {id : SinkId} (same : v.sink? id = w.sink? id) :
    v.frozen? id = w.frozen? id := by
  rw [frozen?, frozen?, same]

theorem index_lt_of_frozen? {id : SinkId} (there : (w.frozen? id).isSome) :
    id.index < w.sinks.length := by
  unfold frozen? sink? at there
  rw [Option.isSome_map] at there
  simpa using there

theorem sink?_append {id : SinkId} (made : Sink) (same : v.sinks = w.sinks ++ [made])
    (bound : id.index < w.sinks.length) : v.sink? id = w.sink? id := by
  unfold sink?
  rw [same, List.getElem?_append_left bound]

theorem sink?_detach (w : World) (id : RouterId) (route : RouteId) (other : SinkId) :
    (w.detach id route).1.sink? other = w.sink? other := by
  unfold detach
  split <;> rfl

theorem isSome_frozen?_setSink (w : World) (id other : SinkId) (sink : Sink) :
    ((w.setSink id sink).frozen? other).isSome = (w.frozen? other).isSome := by
  unfold frozen?
  rw [sink?_setSink]
  split
  · next same => simp [same]
  · rfl

theorem steady_drain (w : World) (id : SinkId) : Steady w (w.drain id).1 := by
  unfold drain
  split
  · next sink found => exact steady_setSink found sink.sealed_drain
  · exact .refl w

theorem sink?_drain (w : World) (id other : SinkId) :
    (w.drain id).1.sink? other =
      if other = id then (w.sink? id).map fun sink => sink.drain.1 else w.sink? other := by
  unfold drain
  cases found : w.sink? id with
  | none =>
    by_cases same : other = id
    · simp [same, found]
    · simp [same]
  | some sink =>
    simp only [sink?_setSink, found]
    rfl

theorem sink?_drain_of_ne (w : World) {id other : SinkId} (apart : other ≠ id) :
    (w.drain id).1.sink? other = w.sink? other := by
  rw [sink?_drain, if_neg apart]

theorem sink?_freeze (w : World) (id other : SinkId) :
    (w.freeze id).1.sink? other =
      if other = id then (w.sink? id).map fun sink => sink.freeze.1 else w.sink? other := by
  unfold freeze
  cases found : w.sink? id with
  | none =>
    by_cases same : other = id
    · simp [same, found]
    · simp [same]
  | some sink =>
    simp only [sink?_setSink, found]
    rfl

theorem frozen?_freeze (w : World) (id other : SinkId) :
    (w.freeze id).1.frozen? other =
      if other = id then (w.frozen? id).map fun _ => true else w.frozen? other := by
  unfold frozen?
  rw [sink?_freeze]
  split
  · cases w.sink? id <;> rfl
  · rfl

/-! ### Closings -/

theorem sessions_detach (w : World) (id : RouterId) (route : RouteId) :
    (w.detach id route).1.sessions = w.sessions := by
  unfold detach
  split <;> rfl

theorem sessions_freeze (w : World) (id : SinkId) : (w.freeze id).1.sessions = w.sessions := by
  unfold freeze
  split <;> rfl

theorem sessions_stopCapturing (w : World) (session : Session) :
    (w.stopCapturing session).sessions = w.sessions := by
  unfold stopCapturing
  split
  · exact sessions_detach w _ _
  · rfl

theorem sink?_stopCapturing (w : World) (session : Session) (id : SinkId) :
    (w.stopCapturing session).sink? id = w.sink? id := by
  unfold stopCapturing
  split
  · exact sink?_detach w _ _ id
  · rfl

/-- Of all sinks only that of the session is changed by its closing. -/
theorem sink?_retire (w : World) (ref : SessionRef) (session : Session) (id : SinkId) :
    (w.retire ref session).sink? id =
      if id = session.sink then (w.sink? session.sink).map fun sink => sink.freeze.1
      else w.sink? id := by
  have stopped := w.sink?_stopCapturing session
  rw [retire, sink?_freeze]
  exact congr (congrArg (ite _) (congrArg _ (stopped session.sink))) (stopped id)

theorem sessions_retire (w : World) (ref : SessionRef) (session : Session) :
    (w.retire ref session).sessions =
      w.sessions.set ref.index { session with phase := .closed } := by
  rw [retire, sessions_freeze, setSession, sessions_stopCapturing]

theorem session?_retire (w : World) (ref other : SessionRef) (session : Session) :
    (w.retire ref session).session? other =
      if other = ref then (w.session? ref).map fun _ => { session with phase := .closed }
      else w.session? other := by
  have same := session?_setSession w ref other { session with phase := .closed }
  unfold session? at same ⊢
  rw [sessions_retire]
  exact same

theorem routers_freeze (w : World) (id : SinkId) : (w.freeze id).1.routers = w.routers := by
  unfold freeze
  split <;> rfl

theorem ownEvents?_retire (w : World) (ref : SessionRef) (session : Session) (id : RouterId) :
    (w.retire ref session).ownEvents? id = w.ownEvents? id := by
  have stopped : (w.stopCapturing session).ownEvents? id = w.ownEvents? id := by
    unfold stopCapturing
    split
    · exact ownEvents?_detach w _ id _
    · rfl
  rw [retire, ownEvents?_of_routers (routers_freeze _ _)]
  exact stopped

section retired

variable (w : World) (ref : SessionRef) {session : Session} {route : RouteId}
  (phase : session.phase = .capturing route)

include phase

theorem routers_retire :
    (w.retire ref session).routers = (w.detach session.router route).1.routers := by
  rw [retire, routers_freeze, setSession, stopCapturing, phase]

theorem table_retire (other : RouterId) :
    (w.retire ref session).table other =
      if other = session.router then (w.table other).filter (·.id != route) else w.table other := by
  rw [table_of_routers (routers_retire w ref phase), table_detach]

theorem nextRoute_retire (other : RouterId) :
    (w.retire ref session).nextRoute other = w.nextRoute other := by
  rw [nextRoute_of_routers (routers_retire w ref phase), nextRoute_detach]

end retired

theorem frozen?_retire (w : World) (ref : SessionRef) (session : Session) (other : SinkId) :
    (w.retire ref session).frozen? other =
      if other = session.sink then (w.frozen? session.sink).map fun _ => true
      else w.frozen? other := by
  unfold frozen?
  rw [sink?_retire]
  split
  · cases w.sink? session.sink <;> rfl
  · rfl

end World

end EventCapture
