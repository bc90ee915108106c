import EventCapture.Proofs.InstantTexts
import EventCapture.Proofs.JsonTexts
import EventCapture.Proofs.Windows

/-! Dumps of what a sink shows, one line for each record.

The stored form of a record leaves out only its distance from the start of the sink. An error that
is missing is told by the member that is not there, and so is a cause at the end of a chain; fields
that are missing are empty. The time of a record is one that the calendar has, because the wall
clock of a sink runs on from such a time or stands still at the last one. So the text of a line
tells the record, and since no line has a line feed in it, the text of a dump tells the lines.
-/

set_option autoImplicit false

namespace EventCapture

/-! ### Stored forms -/

theorem Level.name_inj {a b : Level} (same : a.name = b.name) : a = b := by
  cases a <;> cases b <;> simp [name] at same ⊢

theorem ThreadTag.json_inj {a b : ThreadTag} (same : a.json = b.json) : a = b := by
  obtain ⟨id, name⟩ := a
  obtain ⟨id', name'⟩ := b
  cases name <;> cases name' <;> simp_all [json, Json.optional]

theorem Event.eq_iff {a b : Event} :
    a = b ↔ a.level = b.level ∧ a.logger = b.logger ∧ a.message = b.message ∧ a.error = b.error ∧
      a.fields = b.fields ∧ a.thread = b.thread := by
  cases a
  cases b
  rw [mk.injEq]

theorem ErrorEntry.eq_iff {a b : ErrorEntry} : a = b ↔ a.kind = b.kind ∧ a.message = b.message := by
  cases a
  cases b
  rw [mk.injEq]

namespace ErrorChain

theorem jsonFrom_inj {first second : ErrorEntry} {causes causes' : List ErrorEntry}
    (same : jsonFrom first causes = jsonFrom second causes') :
    first = second ∧ causes = causes' := by
  -- A chain that has come to its end lacks the member for a cause.
  induction causes generalizing first second causes' with
  | nil =>
    cases causes' with
    | nil => exact ⟨ErrorEntry.eq_iff.mpr (by simpa [jsonFrom] using same), rfl⟩
    | cons cause rest => simp [jsonFrom] at same
  | cons cause rest ih =>
    cases causes' with
    | nil => simp [jsonFrom] at same
    | cons cause' rest' =>
      simp only [jsonFrom, Json.object.injEq, List.cons.injEq, Prod.mk.injEq, Json.text.injEq,
        true_and, and_true] at same
      obtain ⟨kind, message, behind⟩ := same
      obtain ⟨rfl, rfl⟩ := ih behind
      exact ⟨ErrorEntry.eq_iff.mpr ⟨kind, message⟩, rfl⟩

theorem json_inj {a b : ErrorChain} (same : a.json = b.json) : a = b := by
  obtain ⟨head, causes⟩ := jsonFrom_inj same
  cases a
  cases b
  rw [mk.injEq]
  exact ⟨head, causes⟩

end ErrorChain

/-- Fields that are there tell themselves, and those that are left out are empty. -/
theorem Fields.stored_inj {a b : Fields}
    (same : (if a.isEmpty then []
        else [("fields", Json.object (a.entries.map fun entry => (entry.1, .text entry.2)))]) =
      (if b.isEmpty then []
        else [("fields", Json.object (b.entries.map fun entry => (entry.1, .text entry.2)))])) :
    a = b := by
  obtain ⟨entries, ascending⟩ := a
  obtain ⟨entries', ascending'⟩ := b
  have stored : Function.Injective fun entry : String × String => (entry.1, Json.text entry.2) := by
    rintro ⟨name, text⟩ ⟨name', text'⟩ same
    simpa using same
  cases entries with
  | nil =>
    cases entries' with
    | nil => rfl
    | cons first rest => simp [isEmpty] at same
  | cons first rest =>
    cases entries' with
    | nil => simp [isEmpty] at same
    | cons first' rest' =>
      simp only [isEmpty, List.isEmpty_cons, Bool.false_eq_true, if_false, List.cons.injEq,
        Prod.mk.injEq, Json.object.injEq, true_and, and_true] at same
      rw [mk.injEq]
      exact stored.list_map same

/-- An error that is there comes before the thread, under a name of its own. -/
theorem ErrorChain.stored_inj {error error' : Option ErrorChain} {thread thread' : Json}
    {rest more : List (String × Json)}
    (same : (error.toList.map fun error => ("error", error.json)) ++ ("thread", thread) :: rest =
      (error'.toList.map fun error => ("error", error.json)) ++ ("thread", thread') :: more) :
    error = error' ∧ thread = thread' ∧ rest = more := by
  cases error with
  | none =>
    cases error' with
    | none => simpa using same
    | some error' => simp at same
  | some error =>
    cases error' with
    | none => simp at same
    | some error' =>
      simp only [Option.toList_some, List.map_cons, List.map_nil, List.cons_append, List.nil_append,
        List.cons.injEq, Prod.mk.injEq, true_and] at same
      exact ⟨congrArg some (json_inj same.1), same.2⟩

namespace Record

/-- The stored form of a record keeps everything but its distance from the start. -/
theorem json_inj {a b : Record} (dated : a.timestamp.IsDated) (dated' : b.timestamp.IsDated)
    (same : a.json = b.json) :
    a.seq = b.seq ∧ a.timestamp = b.timestamp ∧ a.event = b.event := by
  simp only [json, Json.object.injEq, List.cons_append, List.nil_append, List.append_assoc,
    List.cons.injEq, Prod.mk.injEq, Json.number.injEq, Json.text.injEq, true_and] at same
  obtain ⟨seq, time, level, logger, message, behind⟩ := same
  obtain ⟨error, thread, fields⟩ := ErrorChain.stored_inj behind
  refine ⟨Int.ofNat.inj seq, Instant.stampText_inj dated dated' time, ?_⟩
  rw [Event.eq_iff]
  exact ⟨Level.name_inj level, logger, message, error, Fields.stored_inj fields,
    ThreadTag.json_inj thread⟩

end Record

/-! ### Times of a sink -/

namespace Instant

theorem IsDated.later {i : Instant} (dated : i.IsDated) (span : Nat) : (i.later span).IsDated := by
  obtain ⟨nanos, leap⟩ := dated
  have second : nanosPerSecond = 1000000000 := rfl
  unfold Instant.later
  split
  · rw [ofTotal_eq]
    constructor <;> dsimp only <;> omega
  · split
    · rw [ofTotal_eq]
      constructor <;> dsimp only <;> omega
    · constructor <;> dsimp only <;> omega

end Instant

theorem SinkClock.isDated_wall {clock : SinkClock} (dated : clock.startedWall.IsDated) (now : Nat) :
    (clock.wall now).IsDated := by
  have greatest : Instant.greatest.IsDated := by decide
  simp only [wall, Instant.shift?_eq, Instant.inRange?]
  split
  · split
    · exact dated.later _
    · exact greatest
  · exact greatest

namespace Snapshot

/-- A sink that was started at a time of the calendar has shown this. -/
def Shown (snapshot : Snapshot) : Prop :=
  ∃ (began : Nat) (wall : Instant) (calls : List SinkCall),
    wall.IsDated ∧ SinkAnswer.snapshot snapshot ∈ ((Sink.start began wall).run calls).2

theorem Shown.isDated {snapshot : Snapshot} (shown : snapshot.Shown) :
    ∀ record ∈ snapshot.records, record.timestamp.IsDated := by
  obtain ⟨began, wall, calls, dated, answered⟩ := shown
  intro record member
  obtain ⟨before, after, rfl, kept⟩ := Sink.shown_of_mem_run answered
  have history : _ = (Sink.start began wall).additions before :=
    (Sink.start began wall).drained_append_records before
  have added : record ∈ (Sink.start began wall).additions before :=
    history ▸ List.mem_append_right _ (kept.subset member)
  obtain ⟨now, _, seq, _, event, rfl⟩ := Sink.mem_additions added
  exact SinkClock.isDated_wall dated now

/-- The lines of the dump. Behind the last line feed there is nothing. -/
def lines (snapshot : Snapshot) : List (List Char) := Text.pieces '\n' snapshot.jsonLines.toList

theorem toList_jsonLines (snapshot : Snapshot) :
    snapshot.jsonLines.toList =
      snapshot.records.flatMap fun record => record.json.render.toList ++ ['\n'] := by
  rw [jsonLines, String.toList_join, List.flatMap_map]
  exact congrArg (List.flatMap · _) (funext fun _ => String.toList_append)

theorem lines_eq (snapshot : Snapshot) :
    snapshot.lines = (snapshot.records.map fun record => record.json.render.toList) ++ [[]] := by
  rw [lines, toList_jsonLines]
  induction snapshot.records with
  | nil => rfl
  | cons record rest ih =>
    rw [List.flatMap_cons, List.append_assoc, List.singleton_append, Text.pieces_append, ih,
      Text.pieces_of_notMem record.json.newline_notMem_render]
    rfl

theorem count_jsonLines (snapshot : Snapshot) :
    snapshot.jsonLines.toList.count '\n' = snapshot.records.length := by
  have number := Text.length_pieces '\n' snapshot.jsonLines.toList
  rw [← lines, lines_eq, List.length_append, List.length_map] at number
  exact (Nat.succ.inj number).symm

theorem getLast?_jsonLines {snapshot : Snapshot} (nonempty : snapshot.records ≠ []) :
    snapshot.jsonLines.toList.getLast? = some '\n' := by
  rw [toList_jsonLines, ← List.dropLast_append_getLast nonempty, List.flatMap_append,
    List.flatMap_singleton, ← List.append_assoc]
  exact List.getLast?_concat

theorem getElem?_lines {snapshot : Snapshot} {i : Nat} {record : Record}
    (found : snapshot.records[i]? = some record) :
    snapshot.lines[i]? = some record.json.render.toList := by
  have inside := (List.getElem?_eq_some_iff.mp found).1
  rw [lines_eq, List.getElem?_append_left (by simpa using inside), List.getElem?_map, found]
  rfl

/-- The dump of what a sink shows has one line for each record, whatever the texts in the record,
and it has no other line feeds than those at the ends of the lines. Two lines, of one dump or of
the dumps of two sinks, are the same just when their records agree in number, time and event. -/
theorem jsonLines_tell_records {snapshot : Snapshot} (shown : snapshot.Shown) :
    snapshot.jsonLines.toList.count '\n' = snapshot.records.length ∧
      (snapshot.records ≠ [] → snapshot.jsonLines.toList.getLast? = some '\n') ∧
      ∀ (i : Nat) (a : Record), snapshot.records[i]? = some a →
        snapshot.lines[i]? = some a.json.render.toList ∧
          ∀ other : Snapshot, other.Shown → ∀ (j : Nat) (b : Record), other.records[j]? = some b →
            (snapshot.lines[i]? = other.lines[j]? ↔
              a.seq = b.seq ∧ a.timestamp = b.timestamp ∧ a.event = b.event) := by
  refine ⟨snapshot.count_jsonLines, getLast?_jsonLines, fun i a here => ⟨getElem?_lines here, ?_⟩⟩
  intro other shown' j b there
  rw [getElem?_lines here, getElem?_lines there, Option.some.injEq, String.toList_inj]
  constructor
  · intro same
    exact Record.json_inj (shown.isDated a (List.mem_of_getElem? here))
      (shown'.isDated b (List.mem_of_getElem? there)) (Json.render_inj same)
  · rintro ⟨seq, timestamp, event⟩
    rw [Record.json, Record.json, seq, timestamp, event]

/-- Texts with line feeds and quotes in them, an error with causes or without, and a thread without
a name. -/
def unrulyCalls (causes : List ErrorEntry) : List SinkCall :=
  let event := (Event.plain .warn "app\n" "say \"no\"\n").withField "\n" ""
  let thread : ThreadTag := ⟨"\n", none⟩
  [.record 5 event, .record 7 ({ event with thread := thread }.withError ⟨⟨"\"\\", ""⟩, causes⟩),
    .snapshot]

/-- Two sinks that began at different moments reach one time in a leap second. -/
theorem jsonLines_tell_records_unruly :
    let sink := Sink.start 5 ⟨59, 1500000000⟩
    let earlier := Sink.start 3 ⟨59, 1499999998⟩
    let snapshot := (sink.run (unrulyCalls [⟨"", "\x00"⟩])).1.snapshot
    let other := (earlier.run (unrulyCalls [])).1.snapshot
    (snapshot.Shown ∧ other.Shown) ∧ snapshot.jsonLines.toList.count '\n' = 2 ∧
      snapshot.lines[0]? = other.lines[0]? ∧ snapshot.lines[1]? ≠ other.lines[1]? := by
  intro sink earlier snapshot other
  have shown : snapshot.Shown :=
    ⟨5, ⟨59, 1500000000⟩, unrulyCalls [⟨"", "\x00"⟩], by decide, by decide +kernel⟩
  have shown' : other.Shown := ⟨3, ⟨59, 1499999998⟩, unrulyCalls [], by decide, by decide +kernel⟩
  obtain ⟨count, _, tell⟩ := jsonLines_tell_records shown
  refine ⟨⟨shown, shown'⟩, count, ?_, ?_⟩
  · exact ((tell 0 _ rfl).2 other shown' 0 _ rfl).mpr (by decide +kernel)
  · exact fun same => absurd (((tell 1 _ rfl).2 other shown' 1 _ rfl).mp same) (by decide +kernel)

end Snapshot

end EventCapture
