import KayobeConfig.KollaImages.Resolution
import KayobeConfig.KollaImages.Validation

/-!
The tag grammar against what `validate` accepts. A map that passes every pattern can
still leave the grammar at three places that the patterns leave open: a dot of the
release, a final newline and a digit that is not ASCII.
-/

namespace KollaImages

open Library

def isAsciiDigit : Atom := fun char => '0' ≤ char && char ≤ '9'

def tagTail (baseDistro : String) (date time : List Char) : List Char :=
  '-' :: baseDistro.toList ++ ('-' :: date ++ 'T' :: time)

def IsTag (release baseDistro tag : String) : Prop :=
  ∃ date time, date.length = 8 ∧ time.length = 6 ∧
    (∀ char ∈ date ++ time, isAsciiDigit char = true) ∧
      tag.toList = release.toList ++ tagTail baseDistro date time

structure InGrammar (release : String) (tags : KollaImageTags) : Prop where
  default : "openstack" ∈ tags.keys
  keys : ∀ tagVar ∈ tags.keys, tagVar ≠ "" ∧ ∀ char ∈ tagVar.toList, isTagVarChar char = true
  tags : ∀ tagVar baseDistro tag, lookupTag tags baseDistro tagVar = some tag →
    baseDistro ∈ supportedBaseDistros ∧ IsTag release baseDistro tag

def Compiles (re : Re) (release : String) : Prop :=
  ∀ baseDistro ∈ supportedBaseDistros, (compileTagRe re release baseDistro).isSome

def Matches (re : Re) (release baseDistro tag : String) : Prop :=
  ∃ tagRe, compileTagRe re release baseDistro = some tagRe ∧ tagRe tag = true

structure PassesPatterns (re : Re) (release : String) (tags : KollaImageTags) : Prop where
  default : "openstack" ∈ tags.keys
  keys : ∀ tagVar ∈ tags.keys, tagVarRe tagVar = true
  tags : ∀ tagVar baseDistro tag, lookupTag tags baseDistro tagVar = some tag →
    baseDistro ∈ supportedBaseDistros ∧ Matches re release baseDistro tag

def Newlined (text : String) : Prop := text.toList.getLast? = some '\n'

/-- The tag makes no use of what a dot, `$` and a digit class leave open. -/
structure Spelled (release tag : String) : Prop where
  ended : ¬Newlined tag
  literal : release.toList <+: tag.toList
  ascii : ∀ char ∈ tag.toList.drop release.toList.length, isDigit char = true →
    isAsciiDigit char = true

theorem isDigit_of_ascii {char : Char} (ascii : isAsciiDigit char = true) : isDigit char = true := by
  simp only [isAsciiDigit, Bool.and_eq_true, decide_eq_true_eq, Char.le_def,
    UInt32.le_iff_toNat_le] at ascii
  unfold isDigit
  rw [List.any_eq_true]
  refine ⟨0x30, by simp [decimalZeros], ?_⟩
  simp only [Bool.and_eq_true, decide_eq_true_eq]
  have lower : 48 ≤ char.toNat := ascii.1
  have upper : char.toNat ≤ 57 := ascii.2
  omega

theorem isTagVarChar_newline : isTagVarChar '\n' = false := by
  decide

theorem tagVarRe_iff (tagVar : String) :
    tagVarRe tagVar = true ∧ ¬Newlined tagVar ↔
      tagVar ≠ "" ∧ ∀ char ∈ tagVar.toList, isTagVarChar char = true := by
  unfold tagVarRe Newlined
  rw [beforeEnd_iff]
  simp only [matchPlus, Bool.and_eq_true, List.all_eq_true, Bool.not_eq_true',
    List.isEmpty_eq_false_iff]
  constructor
  · rintro ⟨⟨chars, ⟨nonempty, all⟩, whole | ended⟩, plain⟩
    · rw [whole]
      refine ⟨?_, all⟩
      rintro rfl
      exact nonempty whole.symm
    · rw [ended] at plain
      simp at plain
  · rintro ⟨nonempty, all⟩
    refine ⟨⟨tagVar.toList, ⟨by simpa using nonempty, all⟩, Or.inl rfl⟩, ?_⟩
    intro newline
    have impossible := all '\n' (List.mem_of_getLast? newline)
    rw [isTagVarChar_newline] at impossible
    cases impossible

theorem releaseAtoms_self (release : String) :
    matchAtoms (releaseAtoms release) release.toList = true := by
  unfold releaseAtoms
  induction release.toList with
  | nil => rfl
  | cons wanted rest ih =>
      rw [List.map_cons, matchAtoms, ih, Bool.and_true]
      split
      · rename_i dot
        rw [dot]
        rfl
      · simp

theorem tagRe_iff (release baseDistro tag : String) :
    tagRe release baseDistro tag = true ↔
      ∃ written date time, matchAtoms (releaseAtoms release) written = true ∧
        date.length = 8 ∧ time.length = 6 ∧ (∀ char ∈ date ++ time, isDigit char = true) ∧
          (tag.toList = written ++ tagTail baseDistro date time ∨
            tag.toList = written ++ tagTail baseDistro date time ++ ['\n']) := by
  unfold tagRe
  rw [beforeEnd_iff]
  simp only [List.append_assoc, matchAtoms_append, matchAtoms_literal, matchAtoms_replicate]
  constructor
  · rintro ⟨chars, ⟨written, _, rfl, released, _, _, rfl, rfl, _, _, rfl, rfl, _, _, rfl, rfl, date,
      _, rfl, ⟨dates, dateDigits⟩, _, time, rfl, rfl, times, timeDigits⟩, ended⟩
    refine ⟨written, date, time, released, dates, times, ?_, ?_⟩
    · intro char member
      rcases List.mem_append.mp member with among | among
      · exact dateDigits char among
      · exact timeDigits char among
    · simpa [tagTail] using ended
  · rintro ⟨written, date, time, released, dates, times, digits, ended⟩
    refine ⟨written ++ tagTail baseDistro date time, ⟨written, _, rfl, released, "-".toList, _, ?_,
      rfl, baseDistro.toList, _, rfl, rfl, "-".toList, _, rfl, rfl, date, _, rfl,
      ⟨dates, fun char member => digits char (List.mem_append_left time member)⟩, "T".toList, time,
      rfl, rfl, times, fun char member => digits char (List.mem_append_right date member)⟩, ?_⟩
    · simp [tagTail]
    · rwa [List.append_assoc]

theorem isTag_tagRe {release baseDistro tag : String} (wellFormed : IsTag release baseDistro tag) :
    tagRe release baseDistro tag = true := by
  obtain ⟨date, time, dates, times, digits, same⟩ := wellFormed
  exact (tagRe_iff release baseDistro tag).mpr ⟨release.toList, date, time,
    releaseAtoms_self release, dates, times,
    fun char member => isDigit_of_ascii (digits char member), Or.inl same⟩

theorem supported_ascii : ∀ baseDistro ∈ supportedBaseDistros, ∀ char ∈ baseDistro.toList,
    isDigit char = true → isAsciiDigit char = true := by
  have checked : supportedBaseDistros.all fun baseDistro => baseDistro.toList.all fun char =>
      !isDigit char || isAsciiDigit char := by decide
  intro baseDistro supported char member decimal
  have here := List.all_eq_true.mp (List.all_eq_true.mp checked baseDistro supported) char member
  simpa [decimal] using here

theorem isTag_spelled {release baseDistro tag : String} (supported : baseDistro ∈ supportedBaseDistros)
    (wellFormed : IsTag release baseDistro tag) : Spelled release tag := by
  obtain ⟨date, time, dates, times, digits, same⟩ := wellFormed
  refine ⟨?_, ?_, ?_⟩
  · intro newline
    have nonempty : time ≠ [] := by
      rintro rfl
      cases times
    have regroup : release.toList ++ tagTail baseDistro date time =
        (release.toList ++ '-' :: baseDistro.toList ++ '-' :: date ++ ['T']) ++ time := by
      simp [tagTail]
    unfold Newlined at newline
    rw [same, regroup, List.getLast?_append_of_ne_nil _ nonempty] at newline
    have ascii := digits '\n' (List.mem_append_right date (List.mem_of_getLast? newline))
    cases ascii
  · rw [same]
    exact List.prefix_append _ _
  · rw [same, List.drop_left]
    intro char member isDecimal
    simp only [tagTail, List.cons_append, List.mem_cons, List.mem_append] at member
    rcases member with rfl | among | rfl | among | rfl | among
    · revert isDecimal
      decide
    · exact supported_ascii baseDistro supported char among isDecimal
    · revert isDecimal
      decide
    · exact digits char (List.mem_append_left time among)
    · revert isDecimal
      decide
    · exact digits char (List.mem_append_right date among)

theorem tagRe_isTag {release baseDistro tag : String} (matched : tagRe release baseDistro tag = true)
    (spelled : Spelled release tag) : IsTag release baseDistro tag := by
  obtain ⟨written, date, time, released, dates, times, digits, whole | ended⟩ :=
    (tagRe_iff release baseDistro tag).mp matched
  · have size : written.length = release.toList.length := by
      rw [matchAtoms_length released]
      simp [releaseAtoms]
    have literal : release.toList = written :=
      (List.prefix_of_prefix_length_le spelled.literal ⟨_, whole.symm⟩ size.ge).eq_of_length size.symm
    subst literal
    refine ⟨date, time, dates, times, ?_, whole⟩
    intro char member
    refine spelled.ascii char ?_ (digits char member)
    rw [whole, List.drop_left, tagTail]
    rcases List.mem_append.mp member with among | among
    · simp [among]
    · simp [among]
  · refine absurd ?_ spelled.ended
    unfold Newlined
    rw [ended]
    simp

theorem tagRes_lookup {re : Re} {release : String} {compiled : List (String × (String → Bool))}
    (done : tagRes re release = .ok compiled) (baseDistro : String) :
    compiled.lookup baseDistro =
      if baseDistro ∈ supportedBaseDistros then compileTagRe re release baseDistro else none := by
  have related := (mapM_ok_iff _ _ _).mp done
  clear done
  generalize supportedBaseDistros = distros at related ⊢
  induction related with
  | nil => rfl
  | @cons first entry distros compiled step _ ih =>
      cases pattern : compileTagRe re release first with
      | none =>
          rw [pattern] at step
          cases step
      | some tagRe =>
          rw [pattern] at step
          cases step
          rw [List.lookup_cons, ih]
          by_cases same : baseDistro = first
          · simp [same, pattern]
          · have skipped : (baseDistro == first) = false := by simpa using same
            simp [same, skipped]

theorem tagRes_succeeds (re : Re) (release : String) :
    Succeeds (tagRes re release) ↔ Compiles re release := by
  unfold tagRes Compiles
  rw [succeeds_mapM]
  refine forall₂_congr fun baseDistro _ => ?_
  cases compileTagRe re release baseDistro with
  | none =>
      constructor
      · rintro ⟨value, impossible⟩
        cases impossible
      · intro impossible
        cases impossible
  | some tagRe => exact ⟨fun _ => rfl, fun _ => ⟨_, rfl⟩⟩

theorem tagErrors_nil {re : Re} {release : String} {compiled : List (String × (String → Bool))}
    (done : tagRes re release = .ok compiled) (tagVar baseDistro tag : String) :
    tagErrors compiled release tagVar baseDistro tag = [] ↔
      baseDistro ∈ supportedBaseDistros ∧ Matches re release baseDistro tag := by
  unfold tagErrors Matches
  rw [tagRes_lookup done]
  by_cases supported : baseDistro ∈ supportedBaseDistros
  · have compiles := (tagRes_succeeds re release).mp ⟨compiled, done⟩ baseDistro supported
    obtain ⟨tagRe, pattern⟩ := Option.isSome_iff_exists.mp compiles
    rw [if_pos supported, pattern]
    simp [supported]
  · simp [supported]

theorem tagVarErrors_nil {re : Re} {release : String} {compiled : List (String × (String → Bool))}
    (done : tagRes re release = .ok compiled) (tagVar : String) (baseDistros : Dict String String) :
    tagVarErrors compiled release tagVar baseDistros = [] ↔ tagVarRe tagVar = true ∧
      ∀ baseDistro tag, baseDistros.get? baseDistro = some tag →
        baseDistro ∈ supportedBaseDistros ∧ Matches re release baseDistro tag := by
  unfold tagVarErrors
  rw [List.append_eq_nil_iff, List.flatMap_eq_nil_iff]
  apply and_congr
  · split
    · rename_i matched
      simp [matched]
    · rename_i unmatched
      simp [unmatched]
  · simp only [tagErrors_nil done, Prod.forall, Dict.mem_entries_iff]

theorem returns_iff {re : Re} {gitreview : List String} {release : String} (tags : KollaImageTags)
    (read : getOpenstackRelease gitreview = .ok release) :
    Returns re gitreview tags ↔ Compiles re release ∧ PassesPatterns re release tags := by
  unfold Returns validateErrors
  rw [read, ok_bind, ← tagRes_succeeds]
  cases done : tagRes re release with
  | error failure =>
      constructor
      · intro impossible
        cases impossible
      · rintro ⟨⟨compiled, impossible⟩, _⟩
        cases impossible
  | ok compiled =>
      have nonempty : (if (tags.get? "openstack").isSome then []
          else ["Missing default openstack tag"]) = [] ↔ "openstack" ∈ tags.keys := by
        rw [Dict.mem_keys]
        split
        · rename_i present
          simp [present]
        · rename_i absent
          simp [absent]
      rw [ok_bind]
      change Except.ok _ = Except.ok _ ↔ _
      rw [Except.ok.injEq, List.append_eq_nil_iff, nonempty, List.flatMap_eq_nil_iff]
      simp only [tagVarErrors_nil done, Prod.forall, Dict.mem_entries_iff]
      constructor
      · rintro ⟨root, entries⟩
        refine ⟨⟨compiled, rfl⟩, root, ?_, ?_⟩
        · intro tagVar member
          obtain ⟨baseDistros, found⟩ := Dict.exists_of_mem_keys member
          exact (entries tagVar baseDistros found).1
        · intro tagVar baseDistro tag listed
          obtain ⟨baseDistros, found, inner⟩ := Option.bind_eq_some_iff.mp listed
          exact (entries tagVar baseDistros found).2 baseDistro tag inner
      · rintro ⟨_, passes⟩
        refine ⟨passes.default, ?_⟩
        intro tagVar baseDistros found
        refine ⟨passes.keys tagVar (Dict.mem_keys_of_get? found), ?_⟩
        intro baseDistro tag inner
        exact passes.tags tagVar baseDistro tag (Option.bind_eq_some_iff.mpr ⟨_, found, inner⟩)

/-- A map that passes the patterns is in the grammar, and for a release with other
metacharacters than dots a map in the grammar passes them. -/
structure PatternsExact (re : Re) (release : String) (tags : KollaImageTags) : Prop where
  keys : Compiles re release → PassesPatterns re release tags →
    ∀ tagVar ∈ tags.keys, ¬Newlined tagVar
  spelled : Compiles re release → PassesPatterns re release tags →
    ∀ tagVar baseDistro tag, lookupTag tags baseDistro tagVar = some tag →
      if Dotted release then Spelled release tag else IsTag release baseDistro tag
  literal : InGrammar release tags → ¬Dotted release → Compiles re release ∧
    ∀ tagVar baseDistro tag, lookupTag tags baseDistro tagVar = some tag →
      Matches re release baseDistro tag

theorem compileTagRe_dotted {re : Re} {release : String} (dotted : Dotted release)
    (baseDistro : String) : compileTagRe re release baseDistro = some (tagRe release baseDistro) :=
  if_pos dotted

theorem PatternsExact.inGrammar {re : Re} {release : String} {tags : KollaImageTags}
    (exactly : PatternsExact re release tags) (compiles : Compiles re release)
    (passes : PassesPatterns re release tags) : InGrammar release tags := by
  refine ⟨passes.default, ?_, ?_⟩
  · intro tagVar member
    exact (tagVarRe_iff tagVar).mp ⟨passes.keys tagVar member, exactly.keys compiles passes tagVar member⟩
  · intro tagVar baseDistro tag listed
    obtain ⟨supported, pattern, compiled, matched⟩ := passes.tags tagVar baseDistro tag listed
    refine ⟨supported, ?_⟩
    have spelled := exactly.spelled compiles passes tagVar baseDistro tag listed
    split at spelled
    · rename_i dotted
      rw [compileTagRe_dotted dotted] at compiled
      cases compiled
      exact tagRe_isTag matched spelled
    · exact spelled

theorem PatternsExact.passes {re : Re} {release : String} {tags : KollaImageTags}
    (exactly : PatternsExact re release tags) (grammar : InGrammar release tags) :
    Compiles re release ∧ PassesPatterns re release tags := by
  have matched : Compiles re release ∧
      ∀ tagVar baseDistro tag, lookupTag tags baseDistro tagVar = some tag →
        Matches re release baseDistro tag := by
    by_cases dotted : Dotted release
    · constructor
      · intro baseDistro _
        rw [compileTagRe_dotted dotted]
        rfl
      · intro tagVar baseDistro tag listed
        exact ⟨_, compileTagRe_dotted dotted baseDistro,
          isTag_tagRe (grammar.tags tagVar baseDistro tag listed).2⟩
    · exact exactly.literal grammar dotted
  refine ⟨matched.1, grammar.default, ?_, ?_⟩
  · intro tagVar member
    exact ((tagVarRe_iff tagVar).mpr (grammar.keys tagVar member)).1
  · intro tagVar baseDistro tag listed
    exact ⟨(grammar.tags tagVar baseDistro tag listed).1, matched.2 tagVar baseDistro tag listed⟩

theorem validate_inGrammar_iff (re : Re) (gitreview : List String) (release : String)
    (tags : KollaImageTags) (read : getOpenstackRelease gitreview = .ok release) :
    (Returns re gitreview tags ↔ InGrammar release tags) ↔ PatternsExact re release tags := by
  rw [returns_iff tags read]
  constructor
  · intro same
    refine ⟨?_, ?_, ?_⟩
    · intro compiles passes tagVar member
      have grammar := same.mp ⟨compiles, passes⟩
      exact ((tagVarRe_iff tagVar).mpr (grammar.keys tagVar member)).2
    · intro compiles passes tagVar baseDistro tag listed
      obtain ⟨supported, wellFormed⟩ := (same.mp ⟨compiles, passes⟩).tags tagVar baseDistro tag listed
      split
      · exact isTag_spelled supported wellFormed
      · exact wellFormed
    · intro grammar _
      obtain ⟨compiles, passes⟩ := same.mpr grammar
      exact ⟨compiles, fun tagVar baseDistro tag listed =>
        (passes.tags tagVar baseDistro tag listed).2⟩
  · intro exactly
    exact ⟨fun ⟨compiles, passes⟩ => exactly.inGrammar compiles passes, exactly.passes⟩

theorem validateErrors_dotted (re : Re) {gitreview : List String} {release : String}
    (tags : KollaImageTags) (read : getOpenstackRelease gitreview = .ok release)
    (dotted : Dotted release) :
    validateErrors re gitreview tags = .ok (validate release tags) := by
  have compiles : Compiles re release := by
    intro baseDistro _
    rw [compileTagRe_dotted dotted]
    rfl
  obtain ⟨compiled, done⟩ := (tagRes_succeeds re release).mpr compiles
  have tagSame (tagVar baseDistro tag : String) :
      tagErrors compiled release tagVar baseDistro tag =
        validateTag release tagVar baseDistro tag := by
    unfold tagErrors validateTag
    rw [tagRes_lookup done]
    by_cases supported : baseDistro ∈ supportedBaseDistros
    · rw [if_pos supported, compileTagRe_dotted dotted, if_neg (not_not.mpr supported)]
      cases matched : tagRe release baseDistro tag <;> simp [matched]
    · rw [if_neg supported, if_pos supported]
  have varSame (tagVar : String) (baseDistros : Dict String String) :
      tagVarErrors compiled release tagVar baseDistros =
        validateTagVar release tagVar baseDistros := by
    unfold tagVarErrors validateTagVar
    simp only [tagSame]
    cases tagVarRe tagVar <;> rfl
  unfold validateErrors validate
  rw [read, ok_bind, done, ok_bind]
  simp only [varSame]
  rfl

def gitreviewLines : List String := ["[gerrit]\n", "host=review.opendev.org\n", "port=29418\n",
  "project=openstack/kayobe-config.git\n", "defaultbranch=stable/2026.1\n"]

theorem gitreview_release : getOpenstackRelease gitreviewLines = .ok "2026.1" := by
  decide +kernel

def openstackTags (tag : String) : KollaImageTags :=
  Dict.empty.set "openstack" (Dict.empty.set "rocky-10" tag)

theorem validate_dotIsWild : ¬(Returns (fun _ => none) gitreviewLines
    (openstackTags "2026x1-rocky-10-20260101T000000") ↔
      InGrammar "2026.1" (openstackTags "2026x1-rocky-10-20260101T000000")) := by
  intro same
  have accepted : validate "2026.1" (openstackTags "2026x1-rocky-10-20260101T000000") = [] := by
    decide +kernel
  have returned := validateErrors_dotted (fun _ => none)
    (openstackTags "2026x1-rocky-10-20260101T000000") gitreview_release (by decide)
  have grammar := same.mp (returned.trans (congrArg Except.ok accepted))
  obtain ⟨_, date, time, _, _, _, spelled⟩ :=
    grammar.tags "openstack" "rocky-10" "2026x1-rocky-10-20260101T000000" (by decide)
  have start : "2026.1".toList <+: "2026x1-rocky-10-20260101T000000".toList := ⟨_, spelled.symm⟩
  exact absurd start (by decide)

theorem validate_inGrammar_iff_literal :
    (Returns (fun _ => none) gitreviewLines (openstackTags "2026.1-rocky-10-20260101T000000") ↔
        InGrammar "2026.1" (openstackTags "2026.1-rocky-10-20260101T000000")) ↔
      PatternsExact (fun _ => none) "2026.1" (openstackTags "2026.1-rocky-10-20260101T000000") :=
  validate_inGrammar_iff (fun _ => none) gitreviewLines "2026.1" _ gitreview_release

end KollaImages
