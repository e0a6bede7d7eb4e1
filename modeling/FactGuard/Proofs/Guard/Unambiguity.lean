import FactGuard.Proofs.Fact.Merge
import FactGuard.Proofs.Guard.Wording

/-!
# Proofs/Guard/Unambiguity — a preview tells what a guard means

Where the labels of facts can be told apart (`Legible`, which the core registry is), the text of a
guard inside another one can be taken off whatever follows it, and what was taken off has one meaning
(`Plain.telling`); lines at the root come apart in the same way (`Legible.holds_eq_of_preview_eq`).
Only groups of one child look like one another, and these mean the same. Groups without children look
like one another too (`Frame.preview_fill_emptyGroup`), and mean opposite things.
-/

namespace FactGuard

/-- Whether a value can be written in quotes and found again. -/
def Fact.Value.isQuotable : Fact.Value → Bool
  | text content => !content.toList.contains '"'
  | _ => true

namespace Guard

/-! ## Labels that can be told apart -/

/-- **A registry that makes legible previews.** -/
structure Legible (registry : Fact.Registry) : Prop where
  /-- No label starts like a group or like a negation. -/
  opening : ∀ fact, registry.contains fact →
    (registry.label fact).toList.head? ≠ some '(' ∧ (registry.label fact).toList.head? ≠ some 'N'
  /-- No label goes on like another one. -/
  apart : ∀ fact other, registry.contains fact → registry.contains other →
    (registry.label fact).toList ++ [' '] <+: (registry.label other).toList ++ [' '] → fact = other
  /-- No fact is compared with a text that has a quote in it. -/
  quotable : ∀ fact info value, registry.get? fact = some info → info.accepts value → value.isQuotable

/-- A known fact of the core is published, under the label that it is shown with. -/
theorem exists_mem_coreFacts {fact : String} (known : Fact.Registry.core.contains fact) :
    ∃ info, (fact, info) ∈ Fact.coreFacts ∧ Fact.Registry.core.label fact = info.label := by
  rw [Fact.Registry.contains_eq_isSome] at known
  obtain ⟨info, hinfo⟩ := Option.isSome_iff_exists.mp known
  exact ⟨info, Fact.Registry.mem_coreFacts_of_get? hinfo, by rw [Fact.Registry.label, hinfo]⟩

/-- Where every text that is listed is quotable, so is every value that is accepted. -/
theorem isQuotable_of_accepts {info : Fact.Meta} {value : Fact.Value}
    (listed : info.values.all Fact.Value.isNull = false)
    (quotable : info.values.all Fact.Value.isQuotable) (h : info.accepts value) :
    value.isQuotable := by
  cases value with
  | text content =>
    have hmem : info.values.contains (.text content) := by
      cases hkind : info.kind with
      | text => simpa only [Fact.Meta.accepts, hkind, listed, Bool.false_or] using h
      | boolean => simp [Fact.Meta.accepts, hkind] at h
    exact List.all_eq_true.mp quotable _ (List.contains_iff_mem.mp hmem)
  | _ => rfl

/-- **The published facts are legible.** -/
theorem legible_core : Legible .core where
  opening fact known := by
    have hopening : ∀ pair ∈ Fact.coreFacts,
        pair.2.label.toList.head? ≠ some '(' ∧ pair.2.label.toList.head? ≠ some 'N' := by decide
    obtain ⟨info, hinfo, hlabel⟩ := exists_mem_coreFacts known
    exact hlabel ▸ hopening _ hinfo
  apart fact other hfact hother hprefix := by
    have hapart : ∀ pair ∈ Fact.coreFacts, ∀ twin ∈ Fact.coreFacts,
        pair.2.label.toList ++ [' '] <+: twin.2.label.toList ++ [' '] → pair.1 = twin.1 := by
      decide +kernel
    obtain ⟨info, hinfo, hlabel⟩ := exists_mem_coreFacts hfact
    obtain ⟨twin, htwin, hother⟩ := exists_mem_coreFacts hother
    rw [hlabel, hother] at hprefix
    exact hapart _ hinfo _ htwin hprefix
  quotable fact info value hinfo := by
    have hvalues : ∀ pair ∈ Fact.coreFacts, pair.2.values.all Fact.Value.isNull = false ∧
        pair.2.values.all Fact.Value.isQuotable := by decide
    obtain ⟨listed, quotable⟩ := hvalues _ (Fact.Registry.mem_coreFacts_of_get? hinfo)
    exact isQuotable_of_accepts listed quotable

/-! ## Conditions -/

section Condition

variable {registry : Fact.Registry} {rest more : List Char}

theorem toList_valueText_text (content : String) :
    (valueText (.string content)).toList = '"' :: (content.toList ++ ['"']) := by
  simp [valueText, toString]

/-- A quotable value ends where its text says. -/
theorem valueText_append_inj {value other : Fact.Value} (hvalue : value.isQuotable)
    (hother : other.isQuotable)
    (h : (valueText value.toJson).toList ++ rest = (valueText other.toJson).toList ++ more) :
    value = other ∧ rest = more := by
  rcases value with _ | (_ | _) | content <;> rcases other with _ | (_ | _) | twin
  case text.text =>
    simp only [Fact.Value.toJson, toList_valueText_text, List.cons_append, List.append_assoc,
      List.nil_append, List.cons.injEq, true_and] at h
    obtain ⟨hcontent, hrest⟩ := append_cons_inj_of_first (by simpa [Fact.Value.isQuotable] using hvalue)
      (by simpa [Fact.Value.isQuotable] using hother) h
    exact ⟨congrArg _ (String.toList_inj.mp hcontent), hrest⟩
  all_goals
    simp only [Fact.Value.toJson, toList_valueText_text] at h
    simp_all [valueText]

/-- Whether what a condition compares its fact with can be written in quotes and found again. -/
def Predicate.isQuotable : Predicate → Bool
  | equals value => value.isQuotable
  | differs value => value.isQuotable
  | present => true

/-- A quotable predicate ends where its text says. -/
theorem Predicate.text_append_inj {predicate other : Predicate} (hpredicate : predicate.isQuotable)
    (hother : other.isQuotable)
    (h : predicate.text.toList ++ rest = other.text.toList ++ more) :
    predicate = other ∧ rest = more := by
  cases predicate <;> cases other
  case equals.equals value other =>
    obtain ⟨rfl, hrest⟩ := valueText_append_inj hpredicate hother (by simpa [text] using h)
    exact ⟨rfl, hrest⟩
  case differs.differs value other =>
    obtain ⟨rfl, hrest⟩ := valueText_append_inj hpredicate hother (by simpa [text] using h)
    exact ⟨rfl, hrest⟩
  case present.present => exact ⟨rfl, List.append_cancel_left h⟩
  all_goals simp [text] at h

/-- In a legible registry, a predicate that fits is quotable. -/
theorem Predicate.Fits.isQuotable (legible : Legible registry) {fact : String} {predicate : Predicate}
    (fits : predicate.Fits registry fact) : predicate.isQuotable := by
  have hquotable : ∀ value, checkComparison registry fact value = .ok () → value.isQuotable := by
    intro value hvalue
    obtain ⟨info, hinfo, haccepts⟩ := checkComparison_eq_ok_iff.mp hvalue
    exact legible.quotable fact info value hinfo haccepts
  cases predicate with
  | equals value => exact hquotable value fits
  | differs value => exact hquotable value fits
  | present => rfl

/-- A label ends where it stops being the start of every other label. -/
theorem Legible.label_append_inj (legible : Legible registry) {fact other : String}
    (hfact : registry.contains fact) (hother : registry.contains other)
    (h : (registry.label fact).toList ++ ' ' :: rest = (registry.label other).toList ++ ' ' :: more) :
    fact = other ∧ rest = more := by
  have hwords : ∀ (name : String) (tail : List Char),
      (registry.label name).toList ++ [' '] <+: (registry.label name).toList ++ ' ' :: tail :=
    fun name tail => ⟨tail, List.append_cons _ _ _ |>.symm⟩
  have heq : fact = other := by
    rcases List.prefix_or_prefix_of_prefix (hwords fact rest) (h ▸ hwords other more) with hle | hge
    · exact legible.apart fact other hfact hother hle
    · exact (legible.apart other fact hother hfact hge).symm
  subst heq
  exact ⟨rfl, (List.cons.inj (List.append_cancel_left h)).2⟩

end Condition

/-! ## Plain guards -/

/-- A guard composed from checked conditions in which every group has a child. -/
structure Plain (registry : Fact.Registry) (guard : Guard) : Prop where
  composed : Composed registry guard
  filled : Filled guard

section Plain

variable {registry : Fact.Registry} {connective : Connective} {children : List Guard} {child : Guard}

theorem plain_group_iff :
    Plain registry (connective.group children) ↔
      children ≠ [] ∧ ∀ child ∈ children, Plain registry child := by
  constructor
  · rintro ⟨composed, filled⟩
    obtain ⟨nonempty, hfilled⟩ := filled_group_iff.mp filled
    exact ⟨nonempty, fun child hchild =>
      ⟨composed_group_iff.mp composed child hchild, hfilled child hchild⟩⟩
  · rintro ⟨nonempty, each⟩
    exact ⟨composed_group_iff.mpr fun child hchild => (each child hchild).composed,
      filled_group_iff.mpr ⟨nonempty, fun child hchild => (each child hchild).filled⟩⟩

theorem plain_not_iff : Plain registry (.not child) ↔ Plain registry child :=
  ⟨fun ⟨composed, filled⟩ => ⟨composed_not_iff.mp composed, filled_not_iff.mp filled⟩,
    fun ⟨composed, filled⟩ => ⟨composed_not_iff.mpr composed, filled_not_iff.mpr filled⟩⟩

theorem Plain.fits {fact : String} {predicate : Predicate}
    (plain : Plain registry (predicate.about fact)) : predicate.Fits registry fact :=
  composed_about_iff.mp plain.composed

end Plain

/-! ## The text of a guard inside another one -/

/-- The preview of a guard below the root. -/
def innerText (label : String → String) (guard : Guard) : List Char :=
  (nodeText label 1 guard.toJson).toList

/-- The later children of a group, each behind a mark and the word for the connective. -/
def laterText (label : String → String) (mark : List Char) (connective : Connective)
    (children : List Guard) : List Char :=
  children.flatMap fun child => mark ++ connective.word.toList ++ ' ' :: innerText label child

section Text

variable {label : String → String} {connective : Connective} {child : Guard} {children : List Guard}

/-- Each later child comes with the mark and the word of the connective before it. -/
theorem laterText_cons {mark : List Char} :
    laterText label mark connective (child :: children) =
      mark ++ (connective.word.toList ++
        (' ' :: (innerText label child ++ laterText label mark connective children))) := by
  simp [laterText]

theorem toList_intercalate_cons_map (mark : String) (child : Guard) (children : List Guard) :
    (String.intercalate (mark ++ connective.word ++ " ")
        ((child :: children).map fun child => nodeText label 1 child.toJson)).toList =
      innerText label child ++ laterText label mark.toList connective children := by
  induction children generalizing child with
  | nil => simp [innerText, laterText]
  | cons next children ih =>
    have hnext := ih next
    rw [List.map_cons] at hnext
    rw [List.map_cons, List.map_cons, String.intercalate_cons_cons, String.toList_append, hnext]
    simp [innerText, laterText]

/-- A group further in is enclosed in parentheses. -/
theorem innerText_group :
    innerText label (connective.group (child :: children)) =
      '(' :: (innerText label child ++ laterText label [' '] connective children ++ [')']) := by
  rw [innerText, nodeText_group, joined, if_neg Nat.one_ne_zero,
    List.map_congr_left fun child _ => nodeText_succ_congr child 1 0, String.toList_append,
    String.toList_append, toList_intercalate_cons_map " "]
  rfl

theorem innerText_not : innerText label (.not child) = "NO ".toList ++ innerText label child := by
  rw [innerText, nodeText_not, nodeText_succ_congr child 1 0, String.toList_append, innerText]

/-- A predicate is the label of its fact and the text of what is asked. -/
theorem innerText_about {fact : String} {predicate : Predicate} :
    innerText label (predicate.about fact) = (label fact).toList ++ ' ' :: predicate.text.toList := by
  simp [innerText, nodeText_about]

end Text

/-! ## What a text tells -/

/-- The connective of a group counts from its second child on. -/
theorem Connective.join_congr {connective other : Connective} {flags : List Bool}
    (h : flags = [] ∨ connective = other) (flag : Bool) :
    connective.join (flag :: flags) = other.join (flag :: flags) := by
  rcases h with rfl | rfl
  · rw [join_singleton, join_singleton]
  · rfl

/-- The words of the connectives are told apart by their first letter. -/
theorem Connective.word_append_inj {connective other : Connective} {rest more : List Char}
    (h : connective.word.toList ++ rest = other.word.toList ++ more) :
    connective = other ∧ rest = more := by
  cases connective <;> cases other <;> simp_all [word]

/-- **A telling guard** — whatever follows its text, the text ends in one place, and no plain guard of
another meaning has it. -/
def Telling (registry : Fact.Registry) (guard : Guard) : Prop :=
  ∀ (other : Guard) (rest more : List Char), Plain registry other →
    innerText registry.label guard ++ rest = innerText registry.label other ++ more →
      (∀ snapshot, guard.holds snapshot = other.holds snapshot) ∧ rest = more

section Telling

variable {registry : Fact.Registry} {connective other : Connective} {child twin : Guard}
  {children others : List Guard} {mark : Char} {marks rest more : List Char}

/-- The texts of later children come apart: each is told by itself, and what follows the last one is no
mark. -/
theorem laterText_append_inj (telling : ∀ child ∈ children, Telling registry child)
    (plain : ∀ twin ∈ others, Plain registry twin)
    (hrest : rest.head? ≠ some mark) (hmore : more.head? ≠ some mark)
    (h : laterText registry.label (mark :: marks) connective children ++ rest =
      laterText registry.label (mark :: marks) other others ++ more) :
    (∀ snapshot, children.map (holds snapshot) = others.map (holds snapshot)) ∧
      (children = [] ∨ connective = other) ∧ rest = more := by
  induction children generalizing others with
  | nil =>
    cases others with
    | nil => exact ⟨fun _ => rfl, .inl rfl, h⟩
    | cons twin others => exact absurd (congrArg List.head? h) (by simpa [laterText] using hrest)
  | cons child children ih =>
    cases others with
    | nil => exact absurd (congrArg List.head? h).symm (by simpa [laterText] using hmore)
    | cons twin others =>
      simp only [laterText_cons, List.cons_append, List.append_assoc] at h
      obtain ⟨rfl, hchild⟩ := Connective.word_append_inj (List.append_cancel_left (List.cons.inj h).2)
      obtain ⟨hmeaning, hlater⟩ := telling child List.mem_cons_self twin _ _
        (plain twin List.mem_cons_self) (List.cons.inj hchild).2
      obtain ⟨hmeanings, -, hend⟩ := ih (fun child hchild => telling child (.tail _ hchild))
        (fun twin htwin => plain twin (.tail _ htwin)) hlater
      exact ⟨fun snapshot => by rw [List.map_cons, List.map_cons, hmeaning, hmeanings],
        .inr rfl, hend⟩

/-- The text of the children of a group tells the meaning of the group. -/
theorem childrenText_append_inj (telling : ∀ guard ∈ child :: children, Telling registry guard)
    (plain : ∀ guard ∈ twin :: others, Plain registry guard)
    (hrest : rest.head? ≠ some mark) (hmore : more.head? ≠ some mark)
    (h : innerText registry.label child ++
        (laterText registry.label (mark :: marks) connective children ++ rest) =
      innerText registry.label twin ++
        (laterText registry.label (mark :: marks) other others ++ more)) :
    (∀ snapshot, (connective.group (child :: children)).holds snapshot =
      (other.group (twin :: others)).holds snapshot) ∧ rest = more := by
  obtain ⟨hmeaning, hlater⟩ :=
    telling child List.mem_cons_self twin _ _ (plain twin List.mem_cons_self) h
  obtain ⟨hmeanings, hconnective, hend⟩ :=
    laterText_append_inj (fun child hchild => telling child (.tail _ hchild))
      (fun twin htwin => plain twin (.tail _ htwin)) hrest hmore hlater
  refine ⟨fun snapshot => ?_, hend⟩
  rw [holds_group, holds_group, List.map_cons, List.map_cons, ← hmeaning, ← hmeanings]
  exact Connective.join_congr (hconnective.imp_left fun hnil => by rw [hnil, List.map_nil]) _

/-- The text of a condition starts neither like a group nor like a negation. -/
theorem Legible.opening_append (legible : Legible registry) {fact : String}
    (known : registry.contains fact) (tail rest : List Char) :
    (registry.label fact).toList ++ ' ' :: tail ≠ '(' :: rest ∧
      (registry.label fact).toList ++ ' ' :: tail ≠ 'N' :: rest := by
  have hopening := legible.opening fact known
  cases hlabel : (registry.label fact).toList with
  | nil => simp
  | cons c cs =>
    rw [hlabel] at hopening
    exact ⟨fun h => hopening.1 (congrArg some (List.cons.inj h).1),
      fun h => hopening.2 (congrArg some (List.cons.inj h).1)⟩

/-- A group can be told if each of its children can. -/
theorem Telling.group (legible : Legible registry)
    (telling : ∀ guard ∈ child :: children, Telling registry guard) :
    Telling registry (connective.group (child :: children)) := by
  intro guard rest more plain h
  obtain ⟨other, others, rfl⟩ | ⟨inner, rfl⟩ | ⟨fact, predicate, rfl⟩ := kinds guard
  · obtain ⟨nonempty, each⟩ := plain_group_iff.mp plain
    obtain ⟨twin, others, rfl⟩ := List.exists_cons_of_ne_nil nonempty
    simp only [innerText_group, List.cons_append, List.append_assoc, List.cons.injEq, true_and,
      List.nil_append] at h
    obtain ⟨hmeaning, hend⟩ := childrenText_append_inj telling each (by simp) (by simp) h
    exact ⟨hmeaning, (List.cons.inj hend).2⟩
  · simp [innerText_group, innerText_not] at h
  · simp only [innerText_group, innerText_about, List.append_assoc, List.cons_append] at h
    exact absurd h.symm (legible.opening_append plain.fits.contains _ _).1

theorem Telling.not (legible : Legible registry) (telling : Telling registry child) :
    Telling registry (.not child) := by
  intro guard rest more plain h
  obtain ⟨other, others, rfl⟩ | ⟨inner, rfl⟩ | ⟨fact, predicate, rfl⟩ := kinds guard
  · obtain ⟨twin, others, rfl⟩ := List.exists_cons_of_ne_nil (plain_group_iff.mp plain).1
    simp [innerText_group, innerText_not] at h
  · rw [innerText_not, innerText_not, List.append_assoc, List.append_assoc] at h
    obtain ⟨hmeaning, hend⟩ :=
      telling inner _ _ (plain_not_iff.mp plain) (List.append_cancel_left h)
    exact ⟨fun snapshot => by rw [holds, holds, hmeaning], hend⟩
  · rw [innerText_not, innerText_about, List.append_assoc, List.append_assoc] at h
    exact absurd h.symm (legible.opening_append plain.fits.contains _ _).2

/-- A predicate can be told by its label and its text. -/
theorem Telling.about (legible : Legible registry) {fact : String} {predicate : Predicate}
    (fits : predicate.Fits registry fact) : Telling registry (predicate.about fact) := by
  intro guard rest more plain h
  rw [innerText_about, List.append_assoc, List.cons_append] at h
  obtain ⟨other, others, rfl⟩ | ⟨inner, rfl⟩ | ⟨twin, other, rfl⟩ := kinds guard
  · obtain ⟨twin, others, rfl⟩ := List.exists_cons_of_ne_nil (plain_group_iff.mp plain).1
    rw [innerText_group] at h
    exact absurd h (legible.opening_append fits.contains _ _).1
  · rw [innerText_not] at h
    exact absurd h (legible.opening_append fits.contains _ _).2
  · rw [innerText_about, List.append_assoc, List.cons_append] at h
    obtain ⟨rfl, hpredicate⟩ := legible.label_append_inj fits.contains plain.fits.contains h
    obtain ⟨rfl, hend⟩ := Predicate.text_append_inj (fits.isQuotable legible)
      (plain.fits.isQuotable legible) hpredicate
    exact ⟨fun _ => rfl, hend⟩

/-- **Where labels can be told apart, every plain guard is telling.** -/
theorem Plain.telling (legible : Legible registry) {guard : Guard} (plain : Plain registry guard) :
    Telling registry guard := by
  induction guard using kindInduction with
  | group connective children ih =>
    obtain ⟨nonempty, each⟩ := plain_group_iff.mp plain
    obtain ⟨child, children, rfl⟩ := List.exists_cons_of_ne_nil nonempty
    exact .group legible fun guard hguard => ih guard hguard (each guard hguard)
  | not child ih => exact .not legible (ih (plain_not_iff.mp plain))
  | condition fact predicate => exact .about legible plain.fits

end Telling

/-! ## Whole previews -/

theorem preview_some (registry : Fact.Registry) (guard : Guard) :
    preview registry (some guard) = nodeText registry.label 0 guard.toJson := by
  rw [preview, Option.map_some, previewStored_some registry (toJson_ne_null guard)]

/-- What a preview makes of a guard: a group, with a line for each child. -/
structure Lines (registry : Fact.Registry) (guard : Guard) (connective : Connective) (child : Guard)
    (children : List Guard) : Prop where
  plain : ∀ guard ∈ child :: children, Plain registry guard
  meaning : ∀ snapshot,
    (connective.group (child :: children)).holds snapshot = guard.holds snapshot
  text : (preview registry (some guard)).toList =
    innerText registry.label child ++ laterText registry.label ['\n', '✓', ' '] connective children

/-- A guard that has the same text at the root as inside a group is a line by itself. -/
theorem Plain.single_line {registry : Fact.Registry} {guard : Guard} (plain : Plain registry guard)
    (h : (preview registry (some guard)).toList = innerText registry.label guard) :
    Lines registry guard .all guard [] where
  plain := by simpa using plain
  meaning _ := by rw [holds_group, List.map_singleton, Connective.join_singleton]
  text := by rw [h, laterText, List.flatMap_nil, List.append_nil]

/-- Every plain guard is shown as lines, one child after the other. -/
theorem Plain.exists_lines {registry : Fact.Registry} {guard : Guard} (plain : Plain registry guard) :
    ∃ connective child children, Lines registry guard connective child children := by
  obtain ⟨connective, children, rfl⟩ | ⟨child, rfl⟩ | ⟨fact, predicate, rfl⟩ := kinds guard
  · obtain ⟨nonempty, each⟩ := plain_group_iff.mp plain
    obtain ⟨child, children, rfl⟩ := List.exists_cons_of_ne_nil nonempty
    refine ⟨connective, child, children, each, fun _ => rfl, ?_⟩
    rw [preview_some, nodeText_group, joined, if_pos rfl, toList_intercalate_cons_map "\n✓ "]
    rfl
  · refine ⟨_, _, _, plain.single_line ?_⟩
    rw [preview_some, nodeText_not, innerText_not, String.toList_append, innerText]
  · refine ⟨_, _, _, plain.single_line ?_⟩
    rw [preview_some, nodeText_about, innerText, nodeText_about]

/-- **Where labels can be told apart, a preview determines the meaning of a plain guard.** -/
theorem Legible.holds_eq_of_preview_eq {registry : Fact.Registry} (legible : Legible registry)
    {guard other : Guard} (hguard : Plain registry guard) (hother : Plain registry other)
    (h : preview registry (some guard) = preview registry (some other)) (snapshot : Fact.Snapshot) :
    guard.holds snapshot = other.holds snapshot := by
  obtain ⟨connective, child, children, hlines⟩ := hguard.exists_lines
  obtain ⟨connective', twin, others, hlines'⟩ := hother.exists_lines
  have hend : ([] : List Char).head? ≠ some '\n' := nofun
  have htext : innerText registry.label child ++
        (laterText registry.label ['\n', '✓', ' '] connective children ++ []) =
      innerText registry.label twin ++
        (laterText registry.label ['\n', '✓', ' '] connective' others ++ []) := by
    rw [List.append_nil, List.append_nil, ← hlines.text, ← hlines'.text, h]
  rw [← hlines.meaning, ← hlines'.meaning]
  exact (childrenText_append_inj (fun guard hguard => (hlines.plain guard hguard).telling legible)
    hlines'.plain hend hend htext).1 snapshot

/-! ## Empty groups -/

/-- A guard in which a place is left open. -/
inductive Frame
  | hole
  | group (connective : Connective) (before : List Guard) (inner : Frame) (after : List Guard)
  | not (inner : Frame)

/-- The guard with the given one in the open place. -/
def Frame.fill (guard : Guard) : Frame → Guard
  | hole => guard
  | group connective before inner after => connective.group (before ++ inner.fill guard :: after)
  | not inner => .not (inner.fill guard)

/-- Guards of one text have one text in every place. -/
theorem Frame.nodeText_fill_congr {label : String → String} {guard other : Guard}
    (h : ∀ level, nodeText label level guard.toJson = nodeText label level other.toJson)
    (frame : Frame) (level : Nat) :
    nodeText label level (frame.fill guard).toJson = nodeText label level (frame.fill other).toJson := by
  induction frame generalizing level with
  | hole => exact h level
  | group connective before inner after ih =>
    rw [fill, fill, nodeText_group, nodeText_group, List.map_append, List.map_append, List.map_cons,
      List.map_cons, ih]
  | not inner ih => rw [fill, fill, nodeText_not, nodeText_not, ih]

/-- **Empty groups look the same in every place.** -/
theorem Frame.preview_fill_emptyGroup (registry : Fact.Registry) (frame : Frame) :
    preview registry (some (frame.fill (.all []))) = preview registry (some (frame.fill (.any []))) := by
  rw [preview_some, preview_some]
  refine frame.nodeText_fill_congr (fun level => ?_) 0
  exact (nodeText_group .all []).trans (nodeText_group .any []).symm

/-! ## The core facts -/

/-- **A preview determines the meaning of a guard** composed over the core facts, if no group is empty.
Empty groups look the same in every place, and mean opposite things. -/
theorem preview_determines_meaning :
    (∀ guard other : Guard, Composed .core guard → Filled guard → Composed .core other → Filled other →
      preview .core (some guard) = preview .core (some other) →
        ∀ snapshot, permits (some guard) snapshot = permits (some other) snapshot) ∧
    (∀ (registry : Fact.Registry) (frame : Frame),
      preview registry (some (frame.fill (.all []))) = preview registry (some (frame.fill (.any [])))) ∧
    ∀ snapshot, permits (some (.all [])) snapshot = true ∧ permits (some (.any [])) snapshot = false :=
  ⟨fun _ _ composed filled composed' filled' h =>
      legible_core.holds_eq_of_preview_eq ⟨composed, filled⟩ ⟨composed', filled'⟩ h,
    fun registry frame => frame.preview_fill_emptyGroup registry,
    fun _ => ⟨rfl, rfl⟩⟩

/-- A group of one child: a rental, or no contact. -/
def rentalOrNoContact (connective : Connective) : Guard :=
  connective.group [.any [.equals "operation_type" (.text "RENT"), .not (.present "has_contact")]]

theorem composed_rentalOrNoContact (connective : Connective) :
    Composed .core (rentalOrNoContact connective) := by
  have hrental : Composed .core (.equals "operation_type" (.text "RENT")) :=
    .equals (checkedEquals_eq_ok_iff.mpr ⟨by decide +kernel, rfl⟩)
  have hcontact : Composed .core (.present "has_contact") :=
    .present (checkedPresent_eq_ok_iff.mpr ⟨by decide +kernel, rfl⟩)
  refine composed_group_iff.mpr (List.forall_mem_singleton.mpr (.any ?_))
  simpa using And.intro hrental (Composed.not hcontact)

theorem filled_rentalOrNoContact (connective : Connective) : Filled (rentalOrNoContact connective) := by
  refine filled_group_iff.mpr ⟨List.cons_ne_nil _ _, List.forall_mem_singleton.mpr ?_⟩
  refine .any (List.cons_ne_nil _ _) ?_
  simpa using And.intro Filled.equals (Filled.not Filled.present)

/-- A group of one child shows no connective. -/
theorem preview_rentalOrNoContact :
    preview .core (some (rentalOrNoContact .all)) = preview .core (some (rentalOrNoContact .any)) := by
  rw [preview_some, preview_some, rentalOrNoContact, rentalOrNoContact, nodeText_group, nodeText_group]
  simp [joined]

/-- Groups of one child look the same and are the same; the empty groups under a negation look the same
and are not. -/
theorem preview_determines_meaning_smallGroups :
    preview .core (some (rentalOrNoContact .all)) = preview .core (some (rentalOrNoContact .any)) ∧
    permits (some (rentalOrNoContact .all)) .empty = permits (some (rentalOrNoContact .any)) .empty ∧
    preview .core (some (.not (.all []))) = preview .core (some (.not (.any []))) ∧
    permits (some (.not (.all []))) .empty ≠ permits (some (.not (.any []))) .empty := by
  obtain ⟨hmeaning, hplace, -⟩ := preview_determines_meaning
  refine ⟨preview_rentalOrNoContact, ?_, hplace .core (.not .hole), by decide⟩
  exact hmeaning _ _ (composed_rentalOrNoContact .all) (filled_rentalOrNoContact .all)
    (composed_rentalOrNoContact .any) (filled_rentalOrNoContact .any) preview_rentalOrNoContact .empty

end Guard

end FactGuard
