import EventCapture.Pattern

/-! The grammar of patterns, and that reading follows it.

The grammar speaks of the segments that a text has once its double colons are dots: none is empty,
and a star stands nowhere but as the whole last segment. Reading goes another way. It compares the
whole text with a star, takes a star off its end and looks at what is left segment by segment. Both
agree because a last segment that is a star is either all there is or follows a dot.
-/

set_option autoImplicit false

namespace EventCapture.NamePattern

/-- The segments of the logger name that a text is written for. -/
def written (raw : String) : List (List Char) := Name.segments (Name.ofTarget raw).toList

/-- A star stands nowhere but as the whole last segment, and no segment is empty. -/
structure WellDivided (segments : List (List Char)) : Prop where
  filled : ∀ segment ∈ segments, segment ≠ []
  inner : ∀ segment ∈ segments.dropLast, '*' ∉ segment
  last : ∀ segment ∈ segments.getLast?, segment = ['*'] ∨ '*' ∉ segment

structure Grammatical (raw : String) : Prop where
  nonempty : raw ≠ ""
  unblank : ∀ c ∈ raw.toList, Text.isBlank c = false
  divided : WellDivided (written raw)

/-- The last of at least two segments is a star. -/
def Starred (raw : String) : Prop :=
  2 ≤ (written raw).length ∧ (written raw).getLast? = some ['*']

/-- Which pattern stands for which part of the hierarchy. -/
inductive Denotes (name : String) : NamePattern → Prop where
  | any (star : name = "*") : Denotes name .any
  | descendants {base : String} (below : name = base ++ ".*") : Denotes name (.descendants base)
  | exact (star : name ≠ "*") (plain : ∀ base, name ≠ base ++ ".*") : Denotes name (.exact name)

/-! ### Segments -/

/-- No segment is empty or holds a star. -/
def Plain (segments : List (List Char)) : Prop :=
  ∀ segment ∈ segments, segment ≠ [] ∧ '*' ∉ segment

theorem segmentFault?_eq_none_iff {raw : String} {segments : List (List Char)} :
    segmentFault? raw segments = none ↔ Plain segments := by
  induction segments with
  | nil => simp [segmentFault?, Plain]
  | cons segment rest ih =>
    simp only [segmentFault?, Plain, List.forall_mem_cons] at ih ⊢
    rw [← ih]
    by_cases empty : segment = []
    · simp [empty]
    · by_cases star : '*' ∈ segment <;> simp [empty, star]

theorem eq_of_segmentFault? {raw : String} {segments : List (List Char)} {fault : Fault}
    (found : segmentFault? raw segments = some fault) :
    fault = .emptySegment raw ∨ fault = .misplacedStar raw := by
  induction segments with
  | nil => contradiction
  | cons segment rest ih =>
    simp only [segmentFault?] at found
    split at found
    · exact .inl (Option.some.inj found).symm
    · split at found
      · exact .inr (Option.some.inj found).symm
      · exact ih found

theorem baseOfStar?_eq_some_iff {name base : List Char} :
    baseOfStar? name = some base ↔ name = base ++ ['.', '*'] := by
  unfold baseOfStar?
  split
  · next rest reversed =>
    have whole : name = rest.reverse ++ ['.', '*'] := by
      rw [← List.reverse_reverse name, reversed]
      simp
    rw [whole, Option.some.injEq, List.append_left_inj]
  · next other =>
    simp only [reduceCtorEq, false_iff]
    rintro rfl
    exact other base.reverse (by simp)

theorem segments_below (base : List Char) :
    Name.segments (base ++ ['.', '*']) = Name.segments base ++ [['*']] :=
  Text.pieces_append '.' base ['*']

/-- A last segment that is a star is all there is, or follows a dot. -/
theorem star_or_below {name : List Char} (last : (Name.segments name).getLast? = some ['*']) :
    name = ['*'] ∨ ∃ base, name = base ++ ['.', '*'] := by
  obtain ⟨before, divided⟩ := List.getLast?_eq_some_iff.mp last
  have whole := Name.joined_segments name
  rw [divided] at whole
  by_cases none : before = []
  · rw [none] at whole
    exact .inl whole.symm
  · exact .inr ⟨Name.joined before, whole.symm.trans (Text.joined_concat '.' none ['*'])⟩

theorem wellDivided_concat_star {before : List (List Char)} :
    WellDivided (before ++ [['*']]) ↔ Plain before := by
  constructor
  · intro divided segment member
    have inner := divided.inner segment (by simpa using member)
    exact ⟨divided.filled segment (List.mem_append_left _ member), inner⟩
  · intro plain
    constructor
    · intro segment member
      rcases List.mem_append.mp member with member | member
      · exact (plain segment member).1
      · simp [List.mem_singleton.mp member]
    · intro segment member
      exact (plain segment (by simpa using member)).2
    · intro segment member
      simp only [List.getLast?_concat, Option.mem_def, Option.some.injEq] at member
      exact .inl member.symm

theorem wellDivided_iff_plain {segments : List (List Char)}
    (unstarred : segments.getLast? ≠ some ['*']) : WellDivided segments ↔ Plain segments := by
  constructor
  · intro divided segment member
    refine ⟨divided.filled segment member, ?_⟩
    -- A segment is the last one or one of those before it.
    cases ended : segments.getLast? with
    | none =>
      rw [List.getLast?_eq_none_iff.mp ended] at member
      contradiction
    | some last =>
      obtain ⟨before, whole⟩ := List.getLast?_eq_some_iff.mp ended
      have lastPlain := divided.last last ended
      have inner := divided.inner segment
      rw [whole, List.mem_append, List.mem_singleton] at member
      rw [whole, List.dropLast_concat] at inner
      rcases member with member | rfl
      · exact inner member
      · refine lastPlain.resolve_left ?_
        rintro rfl
        exact unstarred ended
  · intro plain
    exact ⟨fun segment member => (plain segment member).1,
      fun segment member => (plain segment (List.dropLast_subset _ member)).2,
      fun segment member => .inr (plain segment (List.mem_of_getLast? member)).2⟩

/-! ### Reading -/

theorem eq_iff_dotted {raw name : String} :
    Name.ofTarget raw = name ↔ Name.dotted raw.toList = name.toList := by
  rw [Name.ofTarget, ← String.toList_inj, String.toList_ofList]

theorem below_iff {raw base : String} :
    Name.ofTarget raw = base ++ ".*" ↔ Name.dotted raw.toList = base.toList ++ ['.', '*'] := by
  rw [eq_iff_dotted, String.toList_append]
  rfl

theorem written_eq (raw : String) : written raw = Name.segments (Name.dotted raw.toList) := by
  rw [written, Name.ofTarget, String.toList_ofList]

/-- A text stands for the names below a base when its last segment of several is a star. -/
theorem starred_iff {raw : String} : Starred raw ↔ ∃ base, Name.ofTarget raw = base ++ ".*" := by
  unfold Starred
  rw [written_eq]
  constructor
  · rintro ⟨several, last⟩
    obtain star | ⟨base, below⟩ := star_or_below last
    · rw [star] at several
      exact absurd several (by decide)
    · exact ⟨String.ofList base, below_iff.mpr (by rw [below, String.toList_ofList])⟩
  · rintro ⟨base, below⟩
    rw [below_iff.mp below, segments_below]
    have some_before := List.length_pos_iff.mpr (Name.segments_ne_nil base.toList)
    simp only [List.length_append, List.length_singleton, List.getLast?_concat, and_true]
    omega

theorem denotes_of_star {raw : String} (star : Name.dotted raw.toList = ['*'])
    (pattern : NamePattern) : Denotes (Name.ofTarget raw) pattern ↔ pattern = .any := by
  have name : Name.ofTarget raw = "*" := eq_iff_dotted.mpr star
  constructor
  · intro denotes
    cases denotes with
    | any => rfl
    | @descendants base below =>
      have same := congrArg List.length (star.symm.trans (below_iff.mp below))
      simp at same
    | exact other => exact absurd name other
  · rintro rfl
    exact .any name

theorem denotes_of_below {raw : String} {base : List Char}
    (below : Name.dotted raw.toList = base ++ ['.', '*']) (pattern : NamePattern) :
    Denotes (Name.ofTarget raw) pattern ↔ pattern = .descendants (String.ofList base) := by
  have name : Name.ofTarget raw = String.ofList base ++ ".*" :=
    below_iff.mpr (by rw [below, String.toList_ofList])
  constructor
  · intro denotes
    cases denotes with
    | any star =>
      have same := congrArg List.length (below.symm.trans (eq_iff_dotted.mp star))
      simp at same
    | @descendants other there =>
      have same := List.append_cancel_right (below.symm.trans (below_iff.mp there))
      rw [same, String.ofList_toList]
    | exact _ plain => exact absurd name (plain _)
  · rintro rfl
    exact .descendants name

theorem denotes_of_plain {raw : String} (star : Name.dotted raw.toList ≠ ['*'])
    (plain : ∀ base, Name.dotted raw.toList ≠ base ++ ['.', '*']) (pattern : NamePattern) :
    Denotes (Name.ofTarget raw) pattern ↔ pattern = .exact (Name.ofTarget raw) := by
  constructor
  · intro denotes
    cases denotes with
    | any same => exact absurd (eq_iff_dotted.mp same) star
    | descendants below => exact absurd (below_iff.mp below) (plain _)
    | exact => rfl
  · rintro rfl
    exact .exact (fun same => star (eq_iff_dotted.mp same))
      fun base below => plain base.toList (below_iff.mp below)

/-- What reading makes of a text that is not empty and holds no blank. -/
theorem parse_of_unblank {raw : String} (nonempty : raw ≠ "")
    (unblank : ∀ c ∈ raw.toList, Text.isBlank c = false) (pattern : NamePattern) :
    parse raw = .ok pattern ↔ WellDivided (written raw) ∧ Denotes (Name.ofTarget raw) pattern := by
  have some_there : raw.isEmpty = false := by simpa using nonempty
  have no_blank : raw.toList.any Text.isBlank = false := by simpa using unblank
  unfold parse
  simp only [some_there, no_blank, Bool.false_eq_true, if_false]
  rw [written_eq]
  by_cases star : Name.dotted raw.toList = ['*']
  · have divided : WellDivided (Name.segments (Name.dotted raw.toList)) := by
      rw [star]
      exact wellDivided_concat_star.mpr (List.forall_mem_nil _)
    rw [if_pos star, denotes_of_star star, and_iff_right divided, Except.ok.injEq, eq_comm]
  · rw [if_neg star]
    cases starred : baseOfStar? (Name.dotted raw.toList) with
    | some base =>
      have below := baseOfStar?_eq_some_iff.mp starred
      rw [denotes_of_below below, below, segments_below, wellDivided_concat_star,
        ← @segmentFault?_eq_none_iff raw]
      dsimp only
      cases segmentFault? raw (Name.segments base) <;> simp [eq_comm]
    | none =>
      have plain (base : List Char) : Name.dotted raw.toList ≠ base ++ ['.', '*'] := fun below =>
        absurd (baseOfStar?_eq_some_iff.mpr below) (by simp [starred])
      have unstarred : (Name.segments (Name.dotted raw.toList)).getLast? ≠ some ['*'] := fun last =>
        (star_or_below last).elim star fun ⟨base, below⟩ => plain base below
      rw [denotes_of_plain star plain, wellDivided_iff_plain unstarred,
        ← @segmentFault?_eq_none_iff raw]
      dsimp only
      cases segmentFault? raw (Name.segments (Name.dotted raw.toList)) <;>
        simp [eq_comm, Name.ofTarget]

theorem parse_eq_ok_iff {raw : String} {pattern : NamePattern} :
    parse raw = .ok pattern ↔ Grammatical raw ∧ Denotes (Name.ofTarget raw) pattern := by
  by_cases empty : raw = ""
  · have refused : parse raw = .error .emptyPattern := by simp [parse, empty]
    rw [refused]
    exact ⟨nofun, fun accepted => absurd empty accepted.1.nonempty⟩
  · by_cases blank : raw.toList.any Text.isBlank = true
    · have refused : parse raw = .error (.blankInPattern raw) := by simp [parse, empty, blank]
      obtain ⟨c, member, found⟩ := List.any_eq_true.mp blank
      rw [refused]
      refine ⟨nofun, fun accepted => ?_⟩
      rw [accepted.1.unblank c member] at found
      contradiction
    · have unblank : ∀ c ∈ raw.toList, Text.isBlank c = false := by simpa using blank
      rw [parse_of_unblank empty unblank]
      exact ⟨fun accepted => ⟨⟨empty, unblank, accepted.1⟩, accepted.2⟩,
        fun accepted => ⟨accepted.1.divided, accepted.2⟩⟩

theorem exists_denotes (name : String) : ∃ pattern, Denotes name pattern := by
  by_cases star : name = "*"
  · exact ⟨_, .any star⟩
  · by_cases starred : ∃ base, name = base ++ ".*"
    · obtain ⟨base, below⟩ := starred
      exact ⟨_, .descendants below⟩
    · exact ⟨_, .exact star (not_exists.mp starred)⟩

theorem not_starred_of_star {raw : String} (star : Name.ofTarget raw = "*") : ¬Starred raw := by
  rintro ⟨several, _⟩
  rw [written, star] at several
  exact absurd several (by decide)

/-- The faults that reading finds, in the order in which it looks for them. -/
def faults (raw : String) : List Fault :=
  [.emptyPattern, .blankInPattern raw, .emptySegment raw, .misplacedStar raw]

theorem mem_faults_of_parse {raw : String} {fault : Fault} (refused : parse raw = .error fault) :
    fault ∈ faults raw := by
  have misdivided {segments : List (List Char)} (found : segmentFault? raw segments = some fault) :
      fault ∈ faults raw := by
    rcases eq_of_segmentFault? found with rfl | rfl <;> simp [faults]
  unfold parse at refused
  split at refused
  · simp [faults, ← Except.error.inj refused]
  · split at refused
    · simp [faults, ← Except.error.inj refused]
    · dsimp only at refused
      split at refused
      · contradiction
      · split at refused
        · split at refused
          · next found => exact misdivided (Except.error.inj refused ▸ found)
          · contradiction
        · split at refused
          · next found => exact misdivided (Except.error.inj refused ▸ found)
          · contradiction

/-- A text and the logger name it is written for are read alike. -/
theorem grammatical_ofTarget_iff {raw : String} :
    Grammatical (Name.ofTarget raw) ↔ Grammatical raw := by
  have divided : written (Name.ofTarget raw) = written raw := by
    rw [written, written, Name.ofTarget_ofTarget]
  have empty : Name.ofTarget raw = "" ↔ raw = "" := by
    rw [eq_iff_dotted, String.toList_empty, Name.dotted_eq_nil_iff, String.toList_eq_nil_iff]
  have unblank : (∀ c ∈ (Name.ofTarget raw).toList, Text.isBlank c = false) ↔
      ∀ c ∈ raw.toList, Text.isBlank c = false := by
    rw [Name.ofTarget, String.toList_ofList]
    refine forall_congr' fun c => ?_
    -- Dots and colons are no blanks, and all else stays.
    by_cases other : c ≠ '.' ∧ c ≠ ':'
    · rw [Name.mem_dotted other]
    · have plain : Text.isBlank c = false := by
        rcases Decidable.not_and_iff_or_not.mp other with dot | colon
        · rw [Decidable.not_not.mp dot]; decide
        · rw [Decidable.not_not.mp colon]; decide
      simp [plain]
  constructor
  · intro accepted
    have inner := accepted.divided
    rw [divided] at inner
    exact ⟨fun none => accepted.nonempty (empty.mpr none), unblank.mp accepted.unblank, inner⟩
  · intro accepted
    have outer := accepted.divided
    rw [← divided] at outer
    exact ⟨fun none => accepted.nonempty (empty.mp none), unblank.mpr accepted.unblank, outer⟩

/-- Reading succeeds just for the texts of the grammar, gives the pattern that the logger name stands
for, and finds one of four faults in all others. A text and its logger name are read alike. -/
theorem parse_follows_grammar (raw : String) :
    let name := Name.ofTarget raw
    ((∃ pattern, parse raw = .ok pattern) ↔ Grammatical raw) ∧
      (∀ pattern, parse raw = .ok pattern →
        (pattern = .any ↔ name = "*") ∧
          ((∃ base, pattern = .descendants base) ↔ Starred raw) ∧
          (∀ base, pattern = .descendants base → name = base ++ ".*") ∧
          (pattern = .exact name ↔ name ≠ "*" ∧ ¬Starred raw)) ∧
      (∀ fault, parse raw = .error fault →
        fault ∈ faults raw ∧ (Failure.configuration fault).code = "ERR_CONFIGURATION") ∧
      (parse name).toOption = (parse raw).toOption := by
  intro name
  refine ⟨?_, ?_, ?_, ?_⟩
  · constructor
    · rintro ⟨pattern, read⟩
      exact (parse_eq_ok_iff.mp read).1
    · intro grammatical
      obtain ⟨pattern, denotes⟩ := exists_denotes name
      exact ⟨pattern, parse_eq_ok_iff.mpr ⟨grammatical, denotes⟩⟩
  · intro pattern read
    rw [starred_iff]
    cases (parse_eq_ok_iff.mp read).2 with
    | any star =>
      have unstarred : ¬∃ base, name = base ++ ".*" := fun below =>
        not_starred_of_star star (starred_iff.mpr below)
      simpa [star, name] using unstarred
    | @descendants base below =>
      have star : name ≠ "*" := fun same => not_starred_of_star same (starred_iff.mpr ⟨base, below⟩)
      refine ⟨by simp [star], by simpa using ⟨base, below⟩, ?_, ?_⟩
      · rintro _ ⟨⟩
        exact below
      · simpa using fun _ => ⟨base, below⟩
    | exact star plain => simp [name, star, plain]
  · intro fault refused
    exact ⟨mem_faults_of_parse refused, rfl⟩
  · have alike (pattern : NamePattern) : parse name = .ok pattern ↔ parse raw = .ok pattern := by
      rw [parse_eq_ok_iff, parse_eq_ok_iff, grammatical_ofTarget_iff, Name.ofTarget_ofTarget]
    refine Option.ext fun pattern => ?_
    have accepted (result : Except Fault NamePattern) :
        result.toOption = some pattern ↔ result = .ok pattern := by
      cases result <;> simp [Except.toOption]
    rw [accepted, accepted, alike]

theorem parse_follows_grammar_colons :
    (parse "a::b::*" = .ok (.descendants "a.b") ∧ Starred "a::b::*") ∧
      parse "a.b.**" = .error (.misplacedStar "a.b.**") ∧
        .misplacedStar "a.b.**" ∈ faults "a.b.**" := by
  have read : parse "a::b::*" = .ok (.descendants "a.b") := by rfl
  have refused : parse "a.b.**" = .error (.misplacedStar "a.b.**") := by rfl
  obtain ⟨_, meant, _⟩ := parse_follows_grammar "a::b::*"
  obtain ⟨_, _, failed, _⟩ := parse_follows_grammar "a.b.**"
  exact ⟨⟨read, (meant _ read).2.1.mp ⟨_, rfl⟩⟩, refused, (failed _ refused).1⟩

end EventCapture.NamePattern
