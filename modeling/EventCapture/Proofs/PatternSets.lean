import EventCapture.Proofs.PatternTexts

/-! Reading a set of patterns keeps the meaning of the texts it is read from.

Repeats are found among patterns and not among texts, so texts that are spelled differently may
become one pattern. What is read is therefore described on the list of the patterns that the texts
stand for: each of them stays once, where it stood first. Which names fall under the set depends on
nothing but which logger names the texts are written for.
-/

set_option autoImplicit false

namespace EventCapture

theorem NamePattern.parse_ofTarget_iff {raw : String} {pattern : NamePattern} :
    parse (Name.ofTarget raw) = .ok pattern ↔ parse raw = .ok pattern := by
  rw [parse_eq_ok_iff, parse_eq_ok_iff, grammatical_ofTarget_iff, Name.ofTarget_ofTarget]

theorem NamePattern.refused_ofTarget_iff {raw : String} :
    (∃ fault, parse (Name.ofTarget raw) = .error fault) ↔ ∃ fault, parse raw = .error fault := by
  have refused (text : String) :
      (∃ fault, parse text = .error fault) ↔ ¬ ∃ pattern, parse text = .ok pattern := by
    cases parse text <;> simp
  simp only [refused, parse_ofTarget_iff]

namespace PatternSet

variable {raws others : List String} {fault : Fault} {name : String}

/-- The fault of the first text that is no pattern. -/
def FirstFault (raws : List String) (fault : Fault) : Prop :=
  ∃ before raw after, raws = before ++ raw :: after ∧
    (∀ earlier ∈ before, ∃ pattern, NamePattern.parse earlier = .ok pattern) ∧
    NamePattern.parse raw = .error fault

/-- One pattern stands in a list before another one does. -/
def Earlier (patterns : List NamePattern) (first second : NamePattern) : Prop :=
  patterns.idxOf first < patterns.idxOf second

/-- Two lists of texts are written for the same logger names, in whatever order, however often and
with whatever separators. -/
def SameNames (raws others : List String) : Prop :=
  ∀ name, name ∈ raws.map Name.ofTarget ↔ name ∈ others.map Name.ofTarget

/-- Whether a name falls under the set that texts are read as, if they are read as one. -/
def verdict? (raws : List String) (name : String) : Option Bool :=
  (parse raws).toOption.map (·.matchesName name)

/-! ### Refusals -/

theorem firstFault_cons_iff {raw : String} {rest : List String} :
    FirstFault (raw :: rest) fault ↔
      NamePattern.parse raw = .error fault ∨
        (∃ pattern, NamePattern.parse raw = .ok pattern) ∧ FirstFault rest fault := by
  constructor
  · rintro ⟨before, other, after, whole, fine, refused⟩
    cases before with
    | nil =>
      obtain ⟨rfl, rfl⟩ := List.cons.inj whole
      exact .inl refused
    | cons earlier before =>
      obtain ⟨rfl, rfl⟩ := List.cons.inj whole
      obtain ⟨first, others⟩ := List.forall_mem_cons.mp fine
      exact .inr ⟨first, before, other, after, rfl, others, refused⟩
  · rintro (refused | ⟨first, before, other, after, rfl, fine, refused⟩)
    · exact ⟨[], raw, rest, rfl, List.forall_mem_nil _, refused⟩
    · exact ⟨raw :: before, other, after, rfl, List.forall_mem_cons.mpr ⟨first, fine⟩, refused⟩

theorem parseAll_eq_error_iff : parseAll raws = .error fault ↔ FirstFault raws fault := by
  induction raws with
  | nil => simp [parseAll, FirstFault]
  | cons raw rest ih =>
    rw [firstFault_cons_iff, ← ih, parseAll]
    cases NamePattern.parse raw with
    | error first => simp
    | ok pattern => cases parseAll rest <;> simp [Except.map]

theorem withoutRepeats_eq_nil_iff {patterns : List NamePattern} :
    withoutRepeats [] patterns = [] ↔ patterns = [] := by
  simp [List.eq_nil_iff_forall_not_mem, mem_withoutRepeats]

theorem ofPatterns_eq_error_iff {patterns : List NamePattern} :
    ofPatterns patterns = .error fault ↔ patterns = [] ∧ fault = .noPatterns := by
  cases patterns <;> simp [ofPatterns, eq_comm]

theorem parse_eq_error_iff :
    parse raws = .error fault ↔ raws = [] ∧ fault = .noPatterns ∨ FirstFault raws fault := by
  rw [← parseAll_eq_error_iff, parse]
  cases all : parseAll raws with
  | error first =>
    have some : raws ≠ [] := by
      rintro rfl
      contradiction
    simp [some]
  | ok patterns =>
    have alike : patterns = [] ↔ raws = [] := by
      rw [← List.length_eq_zero_iff, ← (parseAll_eq_ok_iff.mp all).length_eq,
        List.length_eq_zero_iff]
    simp [ofPatterns_eq_error_iff, withoutRepeats_eq_nil_iff, alike]

theorem exists_firstFault_iff :
    (∃ fault, FirstFault raws fault) ↔
      ∃ raw ∈ raws, ∃ fault, NamePattern.parse raw = .error fault := by
  induction raws with
  | nil => simp [FirstFault]
  | cons raw rest ih =>
    simp only [firstFault_cons_iff, List.exists_mem_cons_iff, ← ih]
    cases NamePattern.parse raw <;> simp

/-- Texts are refused just when there are none or one of them is no pattern. -/
theorem refused_iff :
    (∃ fault, parse raws = .error fault) ↔
      raws = [] ∨ ∃ raw ∈ raws, ∃ fault, NamePattern.parse raw = .error fault := by
  rw [← exists_firstFault_iff]
  simp only [parse_eq_error_iff, exists_or, exists_and_left, exists_eq, and_true]

/-! ### What is read -/

/-- Each pattern stays where it stood first. The ones seen so far are those of a list that is gone
through already, and a pattern that is new stands behind all of it. -/
theorem pairwise_withoutRepeats {seen rest : List NamePattern} (done : List NamePattern)
    (same : ∀ pattern, pattern ∈ seen ↔ pattern ∈ done)
    (ordered : seen.reverse.Pairwise (Earlier (done ++ rest))) :
    (withoutRepeats seen rest).Pairwise (Earlier (done ++ rest)) := by
  fun_induction withoutRepeats seen rest generalizing done with
  | case1 seen => exact ordered
  | case2 seen first rest again ih =>
    have there : first ∈ seen := by simpa using again
    rw [List.append_cons] at ordered ⊢
    refine ih (done ++ [first]) (fun pattern => ?_) ordered
    rw [List.mem_append, List.mem_singleton, ← same]
    exact ⟨.inl, fun either => either.elim id fun equal => equal ▸ there⟩
  | case3 seen first rest unseen ih =>
    have new : first ∉ done := by rw [← same]; simpa using unseen
    have place : (done ++ first :: rest).idxOf first = done.length := by
      rw [List.idxOf_append_of_notMem new, List.idxOf_cons_self, Nat.add_zero]
    rw [List.append_cons] at ordered place ⊢
    refine ih (done ++ [first]) (fun pattern => ?_) ?_
    · rw [List.mem_cons, List.mem_append, List.mem_singleton, ← same, or_comm]
    · rw [List.reverse_cons, List.pairwise_append]
      refine ⟨ordered, List.pairwise_singleton _ _, fun earlier before last here => ?_⟩
      rw [List.mem_singleton.mp here, Earlier, place]
      have member : earlier ∈ done := (same earlier).mp (List.mem_reverse.mp before)
      rw [← List.append_cons, List.idxOf_append_of_mem member]
      exact List.idxOf_lt_length_of_mem member

theorem mem_parseAll_iff {patterns : List NamePattern} {pattern : NamePattern}
    (all : parseAll raws = .ok patterns) :
    pattern ∈ patterns ↔ ∃ raw ∈ raws, NamePattern.parse raw = .ok pattern := by
  rw [parseAll_eq_ok_iff] at all
  induction all with
  | nil => simp
  | cons read _ ih => simp [ih, read, eq_comm]

theorem matchesName_iff {set : PatternSet} :
    set.matchesName name = true ↔ ∃ pattern ∈ set.patterns, pattern.matchesName name = true :=
  List.any_eq_true

/-- A name falls under a set just when it falls under a pattern of one of the texts. -/
theorem matchesName_iff_of_parse {set : PatternSet} (read : parse raws = .ok set) :
    set.matchesName name = true ↔
      ∃ raw ∈ raws, ∃ pattern, NamePattern.parse raw = .ok pattern ∧
        pattern.matchesName name = true := by
  obtain ⟨patterns, all, kept⟩ := parse_eq_ok_iff.mp read
  have members (pattern : NamePattern) :
      pattern ∈ set.patterns ↔ ∃ raw ∈ raws, NamePattern.parse raw = .ok pattern := by
    rw [kept, mem_withoutRepeats, or_iff_right List.not_mem_nil, mem_parseAll_iff all]
  simp only [matchesName_iff, members]
  constructor
  · rintro ⟨pattern, ⟨raw, member, meant⟩, inside⟩
    exact ⟨raw, member, pattern, meant, inside⟩
  · rintro ⟨raw, member, pattern, meant, inside⟩
    exact ⟨pattern, ⟨raw, member, meant⟩, inside⟩

/-! ### Texts for the same names -/

theorem SameNames.of_mem_iff (same : ∀ raw, raw ∈ raws ↔ raw ∈ others) : SameNames raws others := by
  simp [SameNames, same]

theorem SameNames.of_perm (shuffled : raws.Perm others) : SameNames raws others :=
  .of_mem_iff fun _ => shuffled.mem_iff

theorem SameNames.of_ofTarget (before : List String) (raw : String) (after : List String) :
    SameNames (before ++ raw :: after) (before ++ Name.ofTarget raw :: after) := by
  simp [SameNames]

/-- What is true of a text however it is spelled is true of a text of either list or of none. -/
theorem SameNames.exists_iff (same : SameNames raws others) (holds : String → Prop)
    (spelled : ∀ raw, holds (Name.ofTarget raw) ↔ holds raw) :
    (∃ raw ∈ raws, holds raw) ↔ ∃ raw ∈ others, holds raw := by
  have through (texts : List String) :
      (∃ raw ∈ texts, holds raw) ↔ ∃ name, name ∈ texts.map Name.ofTarget ∧ holds name := by
    simp [spelled]
  rw [through raws, through others]
  exact exists_congr fun name => and_congr_left fun _ => same name

theorem SameNames.eq_nil_iff (same : SameNames raws others) : raws = [] ↔ others = [] := by
  have some := not_congr (same.exists_iff (fun _ => True) fun _ => Iff.rfl)
  simpa [List.eq_nil_iff_forall_not_mem] using some

theorem SameNames.refused_iff (same : SameNames raws others) :
    (∃ fault, parse raws = .error fault) ↔ ∃ fault, parse others = .error fault := by
  rw [PatternSet.refused_iff, PatternSet.refused_iff, same.eq_nil_iff,
    same.exists_iff _ fun raw => NamePattern.refused_ofTarget_iff]

theorem SameNames.verdict?_eq (same : SameNames raws others) (name : String) :
    verdict? others name = verdict? raws name := by
  have refused := same.refused_iff
  unfold verdict?
  cases read : parse raws with
  | error fault =>
    obtain ⟨fault, other⟩ := refused.mp ⟨fault, read⟩
    rw [other]
    rfl
  | ok set =>
    cases other : parse others with
    | error fault => exact absurd (read.symm.trans (refused.mpr ⟨fault, other⟩).choose_spec) nofun
    | ok set' =>
      refine congrArg some (Bool.eq_iff_iff.mpr ?_)
      rw [matchesName_iff_of_parse read, matchesName_iff_of_parse other]
      refine (same.exists_iff _ fun raw => ?_).symm
      simp only [NamePattern.parse_ofTarget_iff]

/-- Texts are refused if there are none or one is no pattern, with the fault of the first such.
Else each pattern that they stand for is in the set once, in the place of its first text, and a name
falls under the set just when it falls under one of the texts alone. Neither order nor repeats nor
the separators of the texts make a difference to the names. -/
theorem parse_keeps_meaning (raws : List String) :
    ((∃ fault, parse raws = .error fault) ↔
        raws = [] ∨ ∃ raw ∈ raws, ∃ fault, NamePattern.parse raw = .error fault) ∧
      (∀ fault, parse raws = .error fault ↔
        raws = [] ∧ fault = .noPatterns ∨ FirstFault raws fault) ∧
      (∀ set, parse raws = .ok set →
        set.patterns ≠ [] ∧ set.patterns.Nodup ∧
          (∃ patterns,
            List.Forall₂ (fun raw pattern => NamePattern.parse raw = .ok pattern) raws patterns ∧
              (∀ pattern, pattern ∈ set.patterns ↔ pattern ∈ patterns) ∧
              set.patterns.Pairwise (Earlier patterns)) ∧
          ∀ name, set.matchesName name = true ↔
            ∃ raw ∈ raws, ∃ pattern, NamePattern.parse raw = .ok pattern ∧
              pattern.matchesName name = true) ∧
      ∀ others, SameNames raws others → ∀ name, verdict? others name = verdict? raws name := by
  refine ⟨refused_iff, fun fault => parse_eq_error_iff, fun set read => ?_,
    fun others same name => same.verdict?_eq name⟩
  obtain ⟨patterns, all, kept⟩ := parse_eq_ok_iff.mp read
  refine ⟨set.nonempty, nodup_of_parse read, ⟨patterns, parseAll_eq_ok_iff.mp all, ?_, ?_⟩,
    fun name => matchesName_iff_of_parse read⟩
  · intro pattern
    rw [kept, mem_withoutRepeats, or_iff_right List.not_mem_nil]
  · rw [kept]
    exact pairwise_withoutRepeats [] (fun _ => Iff.rfl) .nil

/-- One pattern in two spellings, given in another order, with fewer repeats and in one spelling;
and a text that is refused, behind one that is not. -/
theorem parse_keeps_meaning_spellings :
    let raws := ["db", "app::*", "app.*", "db"]
    (∃ set, parse raws = .ok set ∧ set.patterns = [.exact "db", .descendants "app"] ∧
        set.patterns.Nodup ∧ set.matchesName "app.start" = true) ∧
      verdict? raws.reverse "app.start" = verdict? raws "app.start" ∧
      verdict? ["app.*", "app::*", "db"] "app.start" = verdict? raws "app.start" ∧
      verdict? ["db", "app.*", "app.*", "db"] "app.start" = verdict? raws "app.start" ∧
      parse ["db", "a..b", ""] = .error (.emptySegment "a..b") ∧
      FirstFault ["db", "a..b", ""] (.emptySegment "a..b") := by
  intro raws
  obtain ⟨_, _, meant, alike⟩ := parse_keeps_meaning raws
  have read : parse raws = .ok ⟨[.exact "db", .descendants "app"], by simp⟩ := by rfl
  obtain ⟨_, once, _, names⟩ := meant _ read
  have refused : parse ["db", "a..b", ""] = .error (.emptySegment "a..b") := by rfl
  have found := ((parse_keeps_meaning ["db", "a..b", ""]).2.1 _).mp refused
  have shuffled : SameNames raws raws.reverse := .of_perm raws.reverse_perm.symm
  have fewer : SameNames raws ["app.*", "app::*", "db"] := .of_mem_iff (by grind)
  have spelled : SameNames raws ["db", "app.*", "app.*", "db"] :=
    .of_ofTarget ["db"] "app::*" ["app.*", "db"]
  refine ⟨⟨_, read, rfl, once, (names "app.start").mpr ?_⟩, alike _ shuffled _, alike _ fewer _,
    alike _ spelled _, refused, found.resolve_left (by simp)⟩
  exact ⟨"app.*", by simp [raws], .descendants "app", by rfl, by decide⟩

end PatternSet

end EventCapture
