import EventCapture.Proofs.NoErrors
import EventCapture.Proofs.Openings
import EventCapture.Proofs.Queries
import EventCapture.Proofs.ReportLines

/-! How much of a capture the reports of failures show.

A session is opened with a limit and keeps it. Its own view and the waits for it report by this
limit. A snapshot does not know which session it was taken of, and a view of it reports by the usual
limit. So the two give the same answers to all queries, but tell the same of a failure only where
the limits are equal or nothing has to be left out by either.
-/

set_option autoImplicit false

namespace EventCapture

namespace Report

/-! ### What a report says -/

theorem ShowsFirst.eq_lines {records : List Record} {limit : Nat} {lines : List String}
    (shows : ShowsFirst records limit lines) : lines = Report.lines records limit := by
  have usual := showsFirst_lines records limit
  refine List.ext_getElem? fun place => ?_
  by_cases early : place < min records.length limit
  · rw [shows.shown place early, usual.shown place early]
  · have behind := congrArg (·[place - min records.length limit]?)
      (shows.others.trans usual.others.symm)
    simp only [List.getElem?_drop] at behind
    rwa [Nat.add_sub_of_le (Nat.le_of_not_lt early)] at behind

/-- There is one report of some records up to a limit. -/
theorem isOf_iff {records : List Record} {limit : Nat} {text : String} :
    IsOf records limit text ↔ text = render records limit := by
  constructor
  · rintro ⟨none, some⟩
    by_cases empty : records = []
    · rw [none empty, empty]
      rfl
    · obtain ⟨lines, rfl, shows⟩ := some empty
      rw [render_of_ne_nil empty, shows.eq_lines]
  · rintro rfl
    exact isOf_render records limit

/-- Two limits show the same of some records: they are equal, or neither leaves anything out. -/
def SameExtent (records : List Record) (first second : Nat) : Prop :=
  first = second ∨ records.length ≤ first ∧ records.length ≤ second

instance (records : List Record) (first second : Nat) :
    Decidable (SameExtent records first second) :=
  inferInstanceAs (Decidable (_ ∨ _))

theorem lines_of_le {records : List Record} {limit : Nat} (all : records.length ≤ limit) :
    lines records limit = records.map fun record => "  " ++ record.text := by
  rw [lines, List.take_of_length_le all, if_neg (Nat.not_lt_of_le all), List.append_nil]

/-- Where the lower limit has left off the other one goes on with a record. -/
theorem render_ne_of_lt {records : List Record} {low high : Nat} (less : low < high)
    (early : low < records.length) : render records low ≠ render records high := by
  intro same
  have nonempty : records ≠ [] := List.ne_nil_of_length_pos (Nat.zero_lt_of_lt early)
  let front := (records.take low).map fun record => "  " ++ record.text
  have cut : lines records low =
      front ++ ["  ... " ++ toString (records.length - low) ++ " more"] := by
    rw [lines, if_pos early]
  obtain ⟨more, rfl⟩ := Nat.exists_eq_add_of_lt less
  obtain ⟨rest, longer⟩ : ∃ rest, lines records (low + more + 1) =
      front ++ ("  " ++ records[low].text) :: rest := by
    rw [lines, Nat.add_assoc, List.take_add, List.drop_eq_getElem_cons early, List.take_succ_cons,
      List.map_append, List.map_cons, List.append_assoc]
    exact ⟨_, rfl⟩
  -- Behind what both have in common one goes on with dots, and the other with a record's number.
  have chars := congrArg String.toList same
  rw [toList_render nonempty, toList_render nonempty, cut, longer, List.map_append,
    List.map_append] at chars
  have tails := Text.joined_append_cancel '\n' _ (by simp) (by simp) chars
  obtain ⟨others, begins⟩ := Text.exists_joined_cons '\n' ("  " ++ records[low].text).toList
    (rest.map String.toList)
  obtain ⟨number, text⟩ := records[low].toList_text
  rw [List.map_cons, List.map_cons, begins] at tails
  simp [Text.joined, text] at tails

theorem render_eq_iff {records : List Record} {first second : Nat} :
    render records first = render records second ↔ SameExtent records first second := by
  constructor
  · intro same
    rcases Nat.lt_trichotomy first second with less | equal | less
    · have all := Nat.le_of_not_lt fun early => render_ne_of_lt less early same
      exact .inr ⟨all, Nat.le_trans all (Nat.le_of_lt less)⟩
    · exact .inl equal
    · have all := Nat.le_of_not_lt fun early => render_ne_of_lt less early same.symm
      exact .inr ⟨Nat.le_trans all (Nat.le_of_lt less), all⟩
  · rintro (rfl | ⟨all, also⟩)
    · rfl
    · rw [render, render, lines_of_le all, lines_of_le also]

end Report

/-! ### What a failure carries -/

/-- A failure that shows the first of some records, as many as a limit allows, and counts the
rest. -/
def Failure.Lists (failure : Failure) (records : List Record) (limit : Nat) : Prop :=
  ∃ rendering, failure.rendering? = some rendering ∧ Report.IsOf records limit rendering

namespace View

/-- Whatever a view is asked, it reports by one limit: the check for errors shows those that it is
about, and all others show the whole capture. -/
structure ReportsBy (view : View) (limit : Nat) : Prop where
  expect : ∀ filter failure, view.expectMatching filter = .error failure →
    failure.Lists view.records limit
  check : ∀ filter expected failure, view.checkCount filter expected = .error failure →
    failure.Lists view.records limit
  errors : ∀ failure, view.checkNoErrors = .error failure → failure.Lists view.offending limit

theorem reportsBy (view : View) : view.ReportsBy view.limit where
  expect := fun filter failure failed => by
    obtain ⟨_, rfl⟩ := expectMatching_eq_error_iff.mp failed
    exact ⟨_, rfl, Report.isOf_render _ _⟩
  check := fun filter expected failure failed => by
    obtain ⟨_, rfl⟩ := checkCount_eq_error_iff.mp failed
    exact ⟨_, rfl, Report.isOf_render _ _⟩
  errors := fun failure failed => by
    by_cases none : view.offending = []
    · rw [checkNoErrors_of_nil none] at failed
      contradiction
    · rw [checkNoErrors_of_ne_nil none] at failed
      obtain rfl := Except.error.inj failed
      exact ⟨_, rfl, Report.isOf_render _ _⟩

/-- Two views give the same answers, and tell the same of a failure just where their limits show the
same. -/
structure TellAlike (one other : View) : Prop where
  all : ∀ filter, one.allMatching filter = other.allMatching filter
  count : ∀ filter, one.countMatching filter = other.countMatching filter
  has : ∀ filter, one.hasMatching filter = other.hasMatching filter
  first : ∀ filter, one.firstMatching? filter = other.firstMatching? filter
  expect_iff : ∀ filter, one.expectMatching filter = other.expectMatching filter ↔
    one.hasMatching filter = true ∨ Report.SameExtent one.records one.limit other.limit
  check_iff : ∀ filter expected, one.checkCount filter expected = other.checkCount filter expected ↔
    one.countMatching filter = expected ∨ Report.SameExtent one.records one.limit other.limit
  errors_iff : one.checkNoErrors = other.checkNoErrors ↔
    Report.SameExtent one.offending one.limit other.limit

/-- So do any two views of one snapshot. -/
theorem tellAlike (snapshot : Snapshot) (limit another : Nat) :
    TellAlike ⟨snapshot, limit⟩ ⟨snapshot, another⟩ where
  all := fun _ => rfl
  count := fun _ => rfl
  has := fun _ => rfl
  first := fun _ => rfl
  expect_iff := fun filter => by
    have looked : (View.mk snapshot another).firstMatching? filter =
        (View.mk snapshot limit).firstMatching? filter := rfl
    rw [hasMatching_eq_isSome]
    cases found : (View.mk snapshot limit).firstMatching? filter with
    | some record =>
      rw [expectMatching_eq_ok_iff.mpr found, expectMatching_eq_ok_iff.mpr (looked.trans found)]
      simp
    | none =>
      rw [expectMatching_eq_error_iff.mpr ⟨found, rfl⟩,
        expectMatching_eq_error_iff.mpr ⟨looked.trans found, rfl⟩]
      simp only [Except.error.injEq, Failure.assertion.injEq, true_and, Option.isSome_none,
        Bool.false_eq_true, false_or]
      exact Report.render_eq_iff
  check_iff := fun filter expected => by
    have counted : (View.mk snapshot another).countMatching filter =
        (View.mk snapshot limit).countMatching filter := rfl
    by_cases right : (View.mk snapshot limit).countMatching filter = expected
    · rw [checkCount_eq_ok_iff.mpr right, checkCount_eq_ok_iff.mpr (counted.trans right)]
      simp [right]
    · rw [checkCount_eq_error_iff.mpr ⟨right, rfl⟩,
        checkCount_eq_error_iff.mpr ⟨counted ▸ right, rfl⟩, counted]
      simp only [Except.error.injEq, Failure.assertion.injEq, true_and, right, false_or]
      exact Report.render_eq_iff
  errors_iff := by
    have picked : (View.mk snapshot another).offending = (View.mk snapshot limit).offending := rfl
    by_cases none : (View.mk snapshot limit).offending = []
    · rw [checkNoErrors_of_nil none, checkNoErrors_of_nil (picked.trans none), none]
      simp [Report.SameExtent]
    · rw [checkNoErrors_of_ne_nil none, checkNoErrors_of_ne_nil (picked ▸ none), picked]
      simp only [Except.error.injEq, Failure.assertion.injEq]
      exact (and_iff_right rfl).trans Report.render_eq_iff

end View

namespace World

/-- Waits that fail report by the limit that the session has at the last poll. -/
theorem lists_waitExpired {w : World} {ref : SessionRef} {limit : Nat}
    (limited : w.limit? ref = some limit) (filter : Filter) (began : Nat) :
    (w.waitExpired ref filter began).2.kind = .timeout ∧
      (w.waitExpired ref filter began).2.Lists (w.events ref).records limit := by
  obtain ⟨session, found, rfl⟩ := Option.map_eq_some_iff.mp limited
  have shown : (w.sessionView ref).limit = session.renderLimit := by
    rw [sessionView, found]
    rfl
  exact ⟨rfl, _, rfl, shown ▸ Report.isOf_render _ _⟩

end World

namespace Client

/-! ### Sessions of a run -/

theorem limit?_of_leads {a b : Course} (leads : Leads a b) {ref : SessionRef} {limit : Nat}
    (limited : a.world.limit? ref = some limit) : b.world.limit? ref = some limit := by
  obtain ⟨session, found, rfl⟩ := Option.map_eq_some_iff.mp limited
  obtain ⟨phase, kept, _⟩ := leads.sessions ref session found
  rw [World.limit?, kept]
  rfl

/-- Whatever is done in the sleeps of a wait, the session keeps its limit. -/
theorem limit?_stage {c : Course} {ref : SessionRef} {limit : Nat}
    (limited : c.world.limit? ref = some limit) (policy : WaitPolicy)
    (doings : List (Nat × Action)) (k : Nat) :
    (c.stage policy doings k).world.limit? ref = some limit := by
  refine Stage.after_keeps (P := fun v => v.limit? ref = some limit) (fun _ _ => id) policy _
    (fun due member v before => ?_) limited k
  obtain ⟨doing, _, rfl⟩ := List.mem_map.mp member
  exact limit?_of_leads (doing.2.run_passage (c.moved v)).leads before

/-- How the failures report that are about what a session has captured. -/
structure Reporting (c : Course) (ref : SessionRef) (limit : Nat) : Prop where
  /-- The view of the session itself goes by its limit. -/
  view : (c.world.sessionView ref).ReportsBy limit
  /-- So does a wait, whatever is done in its sleeps, about what its last poll has seen. -/
  wait : ∀ filter policy (doings : List (Nat × Action)) failure,
    let waited := (c.world.waitFor ref filter policy (c.schedule doings)).2
    waited.result = .error failure → failure.kind = .timeout ∧
      failure.Lists ((c.stage policy doings waited.sleeps).world.events ref).records limit
  /-- Views of its snapshots go by the usual limit. -/
  snapshot : (View.ofSnapshot (c.world.events ref)).ReportsBy Report.usualLimit
  frozen : (View.ofSnapshot (c.world.close ref).2).ReportsBy Report.usualLimit
  /-- Both views of a closed session are of one snapshot. -/
  closed : (c.world.close ref).1.sessionView ref = ⟨(c.world.close ref).2, limit⟩ ∧
    View.TellAlike ⟨(c.world.close ref).2, limit⟩ (View.ofSnapshot (c.world.close ref).2)

theorem Lawful.reporting {c : Course} (lawful : Lawful c) {ref : SessionRef} {limit : Nat}
    (limited : c.world.limit? ref = some limit) : Reporting c ref limit := by
  obtain ⟨session, found, rfl⟩ := Option.map_eq_some_iff.mp limited
  have viewed : (c.world.sessionView ref).limit = session.renderLimit := by
    rw [World.sessionView, found]
    rfl
  have closed := (lawful.atRest_close found).viewed
  refine ⟨viewed ▸ View.reportsBy _, fun filter policy doings failure failed => ?_,
    View.reportsBy _, View.reportsBy _, closed, View.tellAlike _ _ _⟩
  -- The failure was made at the last poll, and the session has kept its limit until then.
  have expired := waitRounds_expired _ ⟨c.world, c.schedule doings⟩ failed
  have kept := limit?_stage limited policy doings
    (c.world.waitFor ref filter policy (c.schedule doings)).2.sleeps
  rw [expired]
  exact World.lists_waitExpired kept filter c.world.elapsed

/-- An opening that succeeds makes a session with the limit that the settings ask for. -/
theorem limit?_opened {c : Course} {id : SessionId} {router : RouterId} {settings : Settings}
    {w : World} {ref : SessionRef} (there : (c.world.router? router).isSome = true)
    (opened : c.world.openWithSettings id router settings = (w, .ok ref)) :
    ((Action.openWithSettings id router settings).run c).world = w ∧
      w.limit? ref = some settings.renderLimit := by
  obtain ⟨host, found⟩ := Option.isSome_iff_exists.mp there
  have opens := World.opens_openWithSettings c.world id router settings
  rw [opened] at opens
  obtain ⟨_, _, _, ⟨_, rfl⟩, enrolled⟩ := opens.enrolled ref host rfl found
  constructor
  · rw [Action.run, Course.openOn, found, Option.elim_some, opened, Course.opened]
    cases w.session? ref <;> rfl
  · rw [World.limit?, World.session?, enrolled.sessions, enrolled.ref, List.getElem?_concat_length]
    rfl

/-- In every run a session has the limit that it was opened with, and all its own failures, those
of its view and of waits for it, report by this limit. Views of its snapshots always report by the
usual limit. Both tell the same just where neither leaves anything out, or where the limits are
equal. -/
theorem reports_by_limit (origin : Instant) (actions : List Action) :
    let states := trail actions (Course.start origin)
    (∀ c ∈ states, ∀ id router settings w ref, (c.world.router? router).isSome = true →
        c.world.openWithSettings id router settings = (w, .ok ref) →
        ((Action.openWithSettings id router settings).run c).world = w ∧
          w.limit? ref = some settings.renderLimit) ∧
      (states.Pairwise fun before after => ∀ ref limit,
        before.world.limit? ref = some limit → after.world.limit? ref = some limit) ∧
      ∀ c ∈ states, ∀ ref limit, c.world.limit? ref = some limit → Reporting c ref limit := by
  intro states
  have between := trail_between (Course.start origin) actions
  refine ⟨fun c _ id router settings w ref there opened => limit?_opened there opened,
    between.ordered.imp fun leads ref limit limited => limit?_of_leads leads limited,
    fun c member ref limit limited => ?_⟩
  exact (lawful_of_mem_trail member).reporting limited

/-- Two events for a session that shows only one. -/
def narrow : List Action :=
  [.openWithSettings ⟨1⟩ World.processRouter ⟨["*"], "trace", WaitSettings.usual, 1⟩,
    .dispatch World.processRouter (Event.plain .info "app" "first"),
    .dispatch World.processRouter (Event.plain .info "app" "second")]

theorem reports_by_limit_narrow :
    let c := runAll narrow (Course.start ⟨0, 0⟩)
    c ∈ trail narrow (Course.start ⟨0, 0⟩) ∧ c.world.limit? ⟨0⟩ = some 1 ∧
      ∃ failure, (c.world.sessionView ⟨0⟩).checkCount (Filter.ofCalls []) 0 = .error failure ∧
        failure.Lists (c.world.sessionView ⟨0⟩).records 1 := by
  intro c
  obtain ⟨_, _, reports⟩ := reports_by_limit ⟨0, 0⟩ narrow
  have reached := runAll_mem_trail narrow (Course.start ⟨0, 0⟩)
  have limited : c.world.limit? ⟨0⟩ = some 1 := by decide +kernel
  have counted : (c.world.sessionView ⟨0⟩).countMatching (Filter.ofCalls []) ≠ 0 := by
    decide +kernel
  have failed := View.checkCount_eq_error_iff.mpr ⟨counted, rfl⟩
  exact ⟨reached, limited, _, failed, (reports c reached ⟨0⟩ 1 limited).view.check _ 0 _ failed⟩

/-- The snapshot that a session leaves is shown beyond the limit of the session, which still keeps
to it. -/
theorem snapshot_beyond_limit :
    let w := (runAll narrow (Course.start ⟨0, 0⟩)).world
    let final := (w.close ⟨0⟩).2
    let filter := Filter.ofCalls []
    w.limit? ⟨0⟩ = some 1 ∧ ¬ (View.ofSnapshot final).ReportsBy 1 ∧
      ((w.close ⟨0⟩).1.sessionView ⟨0⟩).checkCount filter 0 ≠
        (View.ofSnapshot final).checkCount filter 0 := by
  intro w final filter
  have limited : w.limit? ⟨0⟩ = some 1 := by decide +kernel
  have lawful := lawful_of_mem_trail (runAll_mem_trail narrow (Course.start ⟨0, 0⟩))
  obtain ⟨viewed, alike⟩ := (lawful.reporting limited).closed
  have counted : (View.ofSnapshot final).countMatching filter ≠ 0 := by decide +kernel
  have differ : ¬ Report.SameExtent final.records 1 Report.usualLimit := by decide +kernel
  refine ⟨limited, fun reports => ?_, fun same => ?_⟩
  · have failed := View.checkCount_eq_error_iff.mpr ⟨counted, rfl⟩
    obtain ⟨rendering, carried, shown⟩ := reports.check filter 0 _ failed
    obtain rfl := Option.some.inj carried
    exact differ (Report.render_eq_iff.mp (Report.isOf_iff.mp shown).symm)
  · rw [viewed] at same
    obtain none | extent := (alike.check_iff filter 0).mp same
    · exact counted none
    · exact differ extent

end Client

end EventCapture
