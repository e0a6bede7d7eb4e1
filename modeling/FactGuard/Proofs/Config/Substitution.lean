import Mathlib.Data.List.Chain
import FactGuard.Config.Interpolation
import FactGuard.Proofs.Pointwise
import FactGuard.Proofs.Success

/-!
# Proofs/Config/Substitution — what becomes of a text that mentions variables

A text comes apart in one way only (`Dissects.unique`): into literals, which open no mention, mentions
that are closed, and at its end perhaps one that is not. The key lemma is `eq_of_literal_append`: a
literal goes on until a mention opens. Values are filled in part by part, from left to right
(`interpolate_append`), so the first variable that is not set decides before the end of the text does.
-/

namespace FactGuard.Config

/-! ## The parts of a text -/

/-- What opens the mention of a variable. -/
def opening : List Char := ['$', '\x7b']

/-- A part of a text. -/
inductive Part
  | literal (chars : List Char)
  | mention (name : String)

namespace Part

/-- A part as it is written. -/
def text : Part → List Char
  | literal chars => chars
  | mention name => opening ++ (name.toList ++ ['\x7d'])

/-- What a part becomes when values take the places of variables. -/
def filled (environment : Environment) : Part → List Char
  | literal chars => chars
  | mention name => ((environment.text? name).getD "").toList

/-- Whether a part mentions a variable that is not set. -/
def isUnset (environment : Environment) : Part → Bool
  | literal _ => false
  | mention name => (environment.text? name).isNone

/-- Whether a part is the mention of a variable. -/
def isMention : Part → Bool
  | literal _ => false
  | mention _ => true

/-- A literal is not empty and opens no mention, and a name ends at the first closing brace. -/
def Proper : Part → Prop
  | literal chars => chars ≠ [] ∧ ¬opening <:+: chars
  | mention name => '\x7d' ∉ name.toList

end Part

/-- The end of a text, where a mention may be left open. -/
def remainder : Option (List Char) → List Char
  | none => []
  | some rest => opening ++ rest

/-- **A text comes apart** into literals, mentions, and at its end perhaps a mention that is not closed.
No two literals touch, so that each is as long as can be. -/
structure Dissects (text : List Char) (parts : List Part) (tail : Option (List Char)) : Prop where
  joined : text = parts.flatMap Part.text ++ remainder tail
  proper : ∀ part ∈ parts, part.Proper
  maximal : parts.IsChain fun part next => part.isMention ∨ next.isMention
  unclosed : ∀ rest, tail = some rest → '\x7d' ∉ rest

section

variable {text rest chars : List Char} {part : Part} {parts : List Part} {tail : Option (List Char)}
  {name : String}

/-- Without parts, a text is what an opening without an end leaves of it. -/
theorem dissects_nil_iff :
    Dissects text [] tail ↔ text = remainder tail ∧ ∀ rest, tail = some rest → '\x7d' ∉ rest :=
  ⟨fun h => ⟨h.joined, h.unclosed⟩, fun h => ⟨h.1, nofun, .nil, h.2⟩⟩

/-- The first part may be split off, and the rest dissected by itself. -/
theorem dissects_cons_iff :
    Dissects text (part :: parts) tail ↔
      ∃ rest, text = part.text ++ rest ∧ part.Proper ∧
        (∀ next ∈ parts.head?, part.isMention ∨ next.isMention) ∧ Dissects rest parts tail := by
  constructor
  · intro h
    obtain ⟨hpart, hparts⟩ := List.forall_mem_cons.mp h.proper
    obtain ⟨hnext, hmaximal⟩ := List.isChain_cons.mp h.maximal
    refine ⟨parts.flatMap Part.text ++ remainder tail, ?_, hpart, hnext, rfl, hparts, hmaximal, h.unclosed⟩
    rw [h.joined, List.flatMap_cons, List.append_assoc]
  · rintro ⟨rest, rfl, hpart, hnext, h⟩
    refine ⟨?_, List.forall_mem_cons.mpr ⟨hpart, h.proper⟩, List.isChain_cons.mpr ⟨hnext, h.maximal⟩,
      h.unclosed⟩
    rw [h.joined, List.flatMap_cons, List.append_assoc]

theorem text_mention_append (name : String) (rest : List Char) :
    (Part.mention name).text ++ rest = opening ++ (name.toList ++ '\x7d' :: rest) := by
  rw [Part.text, List.append_assoc, List.append_assoc, List.singleton_append]

/-! ## Where a literal ends -/

/-- A literal may end here: at the end of the text, or where a mention opens. -/
def EndsLiteral (rest : List Char) : Prop := rest = [] ∨ opening <+: rest

/-- A literal may end before a text whose first part, if it has one, is a mention. -/
theorem Dissects.endsLiteral (h : Dissects text parts tail)
    (hnext : ∀ next ∈ parts.head?, next.isMention) : EndsLiteral text := by
  cases parts with
  | nil =>
    obtain ⟨rfl, -⟩ := dissects_nil_iff.mp h
    cases tail with
    | none => exact .inl rfl
    | some rest => exact .inr (List.prefix_append _ _)
  | cons part parts =>
    cases part with
    | literal chars => exact absurd (hnext _ rfl) Bool.false_ne_true
    | mention name =>
      obtain ⟨rest, rfl, -⟩ := dissects_cons_iff.mp h
      rw [text_mention_append]
      exact .inr (List.prefix_append _ _)

/-- A literal is split off up to the next mention, since literals do not follow each other. -/
theorem dissects_literal_iff :
    Dissects text (.literal chars :: parts) tail ↔
      ∃ rest, text = chars ++ rest ∧ (chars ≠ [] ∧ ¬opening <:+: chars) ∧
        (∀ next ∈ parts.head?, next.isMention) ∧ Dissects rest parts tail := by
  simp [dissects_cons_iff, Part.text, Part.Proper, Part.isMention]

/-- No mention opens at the front of a literal, not even across its end. -/
theorem opening_not_in_front (hne : chars ≠ []) (hfree : ¬opening <:+: chars) (hend : EndsLiteral rest) :
    ¬opening <+: chars ++ rest := by
  rintro ⟨more, hmore⟩
  match chars with
  | [] => exact hne rfl
  | [c] =>
    obtain ⟨rfl, rfl⟩ := List.cons.inj hmore
    obtain hnil | ⟨more', hmore'⟩ := hend
    · cases hnil
    · exact absurd (List.cons.inj hmore').1 (by decide)
  | c :: d :: chars =>
    obtain ⟨rfl, htail⟩ := List.cons.inj hmore
    obtain ⟨rfl, -⟩ := List.cons.inj htail
    exact hfree (List.prefix_append opening chars).isInfix

/-- **A literal goes on until a mention opens**, so that the text tells where it ends. -/
theorem eq_of_literal_append {chars' rest' : List Char} (hfree : ¬opening <:+: chars)
    (hfree' : ¬opening <:+: chars') (hend : EndsLiteral rest) (hend' : EndsLiteral rest')
    (h : chars ++ rest = chars' ++ rest') : chars = chars' ∧ rest = rest' := by
  have hmiddle {middle chars rest : List Char} (hfree : ¬opening <:+: chars ++ middle)
      (hend : EndsLiteral rest) (hend' : EndsLiteral (middle ++ rest)) : middle = [] := by
    by_contra hne
    have hfree : ¬opening <:+: middle := fun h => hfree (h.trans (List.suffix_append _ _).isInfix)
    obtain hnil | hopens := hend'
    · exact hne (List.append_eq_nil_iff.mp hnil).1
    · exact opening_not_in_front hne hfree hend hopens
  obtain ⟨middle, rfl, rfl⟩ | ⟨middle, rfl, rfl⟩ := List.append_eq_append_iff.mp h
  · obtain rfl := hmiddle hfree' hend' hend
    simp
  · obtain rfl := hmiddle hfree hend hend'
    simp

/-! ## One way to come apart -/

theorem Dissects.of_nil (h : Dissects [] parts tail) : parts = [] ∧ tail = none := by
  have hjoined := List.append_eq_nil_iff.mp h.joined.symm
  refine ⟨?_, ?_⟩
  · cases parts with
    | nil => rfl
    | cons part parts =>
      have htext := (List.append_eq_nil_iff.mp (List.flatMap_cons ▸ hjoined.1)).1
      cases part with
      | literal chars => exact absurd htext (h.proper _ List.mem_cons_self).1
      | mention name => cases htext
  · cases tail with
    | none => rfl
    | some rest => cases hjoined.2

/-- Where a mention opens, no literal stands in front. -/
theorem Dissects.of_opening (h : Dissects (opening ++ rest) parts tail) :
    (parts = [] ∧ tail = some rest ∧ '\x7d' ∉ rest) ∨
      ∃ name parts' rest', parts = .mention name :: parts' ∧ '\x7d' ∉ name.toList ∧
        rest = name.toList ++ '\x7d' :: rest' ∧ Dissects rest' parts' tail := by
  cases parts with
  | nil =>
    obtain ⟨hjoined, hunclosed⟩ := dissects_nil_iff.mp h
    cases tail with
    | none => cases hjoined
    | some rest' =>
      obtain rfl := List.append_cancel_left hjoined
      exact .inl ⟨rfl, rfl, hunclosed _ rfl⟩
  | cons part parts =>
    cases part with
    | literal chars =>
      obtain ⟨rest', hjoined, ⟨hne, hfree⟩, hnext, hrest⟩ := dissects_literal_iff.mp h
      exact absurd (hjoined ▸ List.prefix_append _ _) (opening_not_in_front hne hfree (hrest.endsLiteral hnext))
    | mention name =>
      obtain ⟨rest', hjoined, hname, -, hrest⟩ := dissects_cons_iff.mp h
      rw [text_mention_append] at hjoined
      exact .inr ⟨name, parts, rest', rfl, hname, List.append_cancel_left hjoined, hrest⟩

/-- Where a literal stands in front, it is the first part. -/
theorem Dissects.of_literal (hne : chars ≠ []) (hfree : ¬opening <:+: chars) (hend : EndsLiteral rest)
    (h : Dissects (chars ++ rest) parts tail) :
    ∃ parts', parts = .literal chars :: parts' ∧ Dissects rest parts' tail := by
  have hfront := opening_not_in_front hne hfree hend
  cases parts with
  | nil =>
    obtain ⟨hjoined, -⟩ := dissects_nil_iff.mp h
    cases tail with
    | none => exact absurd (List.append_eq_nil_iff.mp hjoined).1 hne
    | some rest' => exact absurd (hjoined ▸ List.prefix_append _ _) hfront
  | cons part parts =>
    cases part with
    | literal chars' =>
      obtain ⟨rest', hjoined, ⟨-, hfree'⟩, hnext, hrest⟩ := dissects_literal_iff.mp h
      obtain ⟨rfl, rfl⟩ := eq_of_literal_append hfree hfree' hend (hrest.endsLiteral hnext) hjoined
      exact ⟨parts, rfl, hrest⟩
    | mention name =>
      obtain ⟨rest', hjoined, -⟩ := dissects_cons_iff.mp h
      rw [text_mention_append] at hjoined
      exact absurd (hjoined ▸ List.prefix_append _ _) hfront

/-- **A text comes apart in one way only.** -/
theorem Dissects.unique {parts' : List Part} {tail' : Option (List Char)} (h : Dissects text parts tail)
    (h' : Dissects text parts' tail') : parts' = parts ∧ tail' = tail := by
  induction parts generalizing text parts' with
  | nil =>
    obtain ⟨rfl, hunclosed⟩ := dissects_nil_iff.mp h
    cases tail with
    | none => exact h'.of_nil
    | some rest =>
      obtain ⟨rfl, rfl, -⟩ | ⟨name, _, _, -, -, rfl, -⟩ := h'.of_opening
      · exact ⟨rfl, rfl⟩
      · exact absurd (List.mem_append_right _ List.mem_cons_self) (hunclosed _ rfl)
  | cons part parts ih =>
    cases part with
    | literal chars =>
      obtain ⟨rest, rfl, ⟨hne, hfree⟩, hnext, hrest⟩ := dissects_literal_iff.mp h
      obtain ⟨parts', rfl, hrest'⟩ := h'.of_literal hne hfree (hrest.endsLiteral hnext)
      obtain ⟨rfl, rfl⟩ := ih hrest hrest'
      exact ⟨rfl, rfl⟩
    | mention name =>
      obtain ⟨rest, rfl, hname, -, hrest⟩ := dissects_cons_iff.mp h
      rw [text_mention_append] at h'
      obtain ⟨-, -, hunclosed⟩ | ⟨name', parts', rest', rfl, hname', hjoined, hrest'⟩ := h'.of_opening
      · exact absurd (List.mem_append_right _ List.mem_cons_self) hunclosed
      · obtain ⟨hnames, rfl⟩ := append_cons_inj_of_first hname hname' hjoined
        obtain rfl := String.toList_inj.mp hnames
        obtain ⟨rfl, rfl⟩ := ih hrest hrest'
        exact ⟨rfl, rfl⟩

/-- A character that opens no mention goes into the literal in front. -/
theorem Dissects.cons {c : Char} (hfront : ¬opening <+: c :: text) (h : Dissects text parts tail) :
    ∃ parts', Dissects (c :: text) parts' tail := by
  by_cases hnext : ∀ next ∈ parts.head?, next.isMention
  · refine ⟨.literal [c] :: parts, dissects_literal_iff.mpr ⟨text, rfl, ⟨List.cons_ne_nil _ _, ?_⟩, hnext, h⟩⟩
    exact fun hinfix => Nat.not_succ_le_self 1 hinfix.length_le
  · cases parts with
    | nil => exact absurd nofun hnext
    | cons part parts =>
      cases part with
      | mention name => simp [Part.isMention] at hnext
      | literal chars =>
        obtain ⟨rest, rfl, ⟨hne, hfree⟩, hnext, hrest⟩ := dissects_literal_iff.mp h
        refine ⟨.literal (c :: chars) :: parts,
          dissects_literal_iff.mpr ⟨rest, rfl, ⟨List.cons_ne_nil _ _, fun hinfix => ?_⟩, hnext, hrest⟩⟩
        obtain hbegins | hinfix := List.infix_cons_iff.mp hinfix
        · exact hfront (hbegins.trans (List.prefix_append (c :: chars) rest))
        · exact hfree hinfix

/-- **Every text comes apart.** -/
theorem exists_dissects (text : List Char) : ∃ parts tail, Dissects text parts tail := by
  induction hlength : text.length using Nat.strong_induction_on generalizing text with
  | _ length ih =>
    subst hlength
    by_cases hopens : opening <+: text
    · obtain ⟨rest, rfl⟩ := hopens
      by_cases hclosed : '\x7d' ∈ rest
      · obtain ⟨name, rest, rfl, hname⟩ := List.eq_append_cons_of_mem hclosed
        obtain ⟨parts, tail, hrest⟩ := ih rest.length (by simp; omega) rest rfl
        refine ⟨.mention (String.ofList name) :: parts, tail,
          dissects_cons_iff.mpr ⟨rest, ?_, ?_, fun _ _ => .inl rfl, hrest⟩⟩
        · rw [text_mention_append, String.toList_ofList]
        · rwa [Part.Proper, String.toList_ofList]
      · exact ⟨[], some rest, dissects_nil_iff.mpr ⟨rfl, fun _ heq => Option.some.inj heq ▸ hclosed⟩⟩
    · cases text with
      | nil => exact ⟨[], none, dissects_nil_iff.mpr ⟨rfl, nofun⟩⟩
      | cons c text =>
        obtain ⟨parts, tail, hrest⟩ := ih text.length (by simp) text rfl
        obtain ⟨parts, hparts⟩ := hrest.cons hopens
        exact ⟨parts, tail, hparts⟩

end

/-! ## Filling in values -/

section

variable {environment : Environment} {text rest chars : List Char} {parts : List Part}
  {tail : Option (List Char)} {name : String}

/-- An opening is not ended if no brace follows. -/
theorem mention?_of_notMem (h : '\x7d' ∉ rest) : mention? rest = none := by
  induction rest with
  | nil => rfl
  | cons c rest ih =>
    rw [mention?, ih (List.not_mem_of_not_mem_cons h), Option.map_none]
    exact fun heq => List.ne_of_not_mem_cons h heq.symm

theorem mention?_append {name : List Char} (h : '\x7d' ∉ name) (rest : List Char) :
    mention? (name ++ '\x7d' :: rest) = some (name, rest) := by
  induction name with
  | nil => rfl
  | cons c name ih =>
    rw [List.cons_append, mention?, ih (List.not_mem_of_not_mem_cons h), Option.map_some]
    exact fun heq => List.ne_of_not_mem_cons h heq.symm

/-- At an opening, the scanner looks for the name of a mention. -/
theorem interpolate_opening (rest : List Char) :
    interpolate environment (opening ++ rest) =
      match mention? rest with
      | none => .error .unclosedMention
      | some (name, rest) =>
        match environment.text? (String.ofList name) with
        | none => .error (.missingVariable (String.ofList name))
        | some value => (value.toList ++ ·) <$> interpolate environment rest := by
  rw [opening, List.cons_append, List.cons_append, List.nil_append, interpolate]
  split
  · next h => simp only [h]
  · next h =>
    simp only [h]
    rfl

theorem interpolate_cons {c : Char} (h : ¬opening <+: c :: rest) :
    interpolate environment (c :: rest) = (c :: ·) <$> interpolate environment rest := by
  rw [interpolate]
  · exact bind_pure_comp _ _
  · rintro rest' rfl rfl
    exact h (List.prefix_append opening rest')

/-- A literal is copied as a whole. -/
theorem interpolate_literal (hfree : ¬opening <:+: chars) (hend : EndsLiteral rest) :
    interpolate environment (chars ++ rest) = (chars ++ ·) <$> interpolate environment rest := by
  induction chars with
  | nil => exact (id_map _).symm
  | cons c chars ih =>
    have hrest : ¬opening <:+: chars := fun h => hfree (List.infix_cons_iff.mpr (.inr h))
    have hfront : ¬opening <+: c :: (chars ++ rest) :=
      opening_not_in_front (List.cons_ne_nil c chars) hfree hend
    rw [List.cons_append, interpolate_cons hfront, ih hrest, Functor.map_map]
    rfl

/-- A mention is replaced by the value of its variable, or refused by its name. -/
theorem interpolate_mention (h : '\x7d' ∉ name.toList) (rest : List Char) :
    interpolate environment ((Part.mention name).text ++ rest) =
      match environment.text? name with
      | none => .error (.missingVariable name)
      | some value => (value.toList ++ ·) <$> interpolate environment rest := by
  rw [text_mention_append, interpolate_opening, mention?_append h]
  simp only [String.ofList_toList]

/-- An opening without an end is refused where it is reached. -/
theorem interpolate_remainder (h : ∀ rest, tail = some rest → '\x7d' ∉ rest) :
    interpolate environment (remainder tail) =
      match tail with
      | none => .ok []
      | some _ => .error .unclosedMention := by
  cases tail with
  | none => rw [remainder, interpolate]
  | some rest => rw [remainder, interpolate_opening, mention?_of_notMem (h rest rfl)]

/-- **Values are filled in from left to right**, and then the rest of the text comes apart as before. -/
theorem interpolate_append {before after : List Part} (h : Dissects text (before ++ after) tail)
    (hset : ∀ name, .mention name ∈ before → environment.text? name ≠ none) :
    ∃ rest, Dissects rest after tail ∧ interpolate environment text =
      (before.flatMap (Part.filled environment) ++ ·) <$> interpolate environment rest := by
  induction before generalizing text with
  | nil => exact ⟨text, h, (id_map _).symm⟩
  | cons part before ih =>
    have hbefore : ∀ name, .mention name ∈ before → environment.text? name ≠ none :=
      fun name hname => hset name (List.mem_cons_of_mem _ hname)
    obtain ⟨rest, rfl, hproper, -, hrest⟩ := dissects_cons_iff.mp h
    obtain ⟨last, hlast, heq⟩ := ih hrest hbefore
    have hpart : interpolate environment (part.text ++ rest) =
        (part.filled environment ++ ·) <$> interpolate environment rest := by
      cases part with
      | literal chars =>
        obtain ⟨_, hjoined, -, hnext, hrest⟩ := dissects_literal_iff.mp h
        obtain rfl := List.append_cancel_left hjoined
        exact interpolate_literal hproper.2 (hrest.endsLiteral hnext)
      | mention name =>
        obtain ⟨value, hvalue⟩ := Option.ne_none_iff_exists'.mp (hset name List.mem_cons_self)
        rw [interpolate_mention hproper, hvalue, Part.filled, hvalue, Option.getD_some]
    refine ⟨last, hlast, ?_⟩
    rw [hpart, heq, Functor.map_map, List.flatMap_cons]
    simp only [List.append_assoc]

/-- With all variables set, the end of the text decides. -/
theorem interpolate_of_set (h : Dissects text parts tail)
    (hset : ∀ name, .mention name ∈ parts → environment.text? name ≠ none) :
    interpolate environment text =
      match tail with
      | none => .ok (parts.flatMap (Part.filled environment))
      | some _ => .error .unclosedMention := by
  obtain ⟨rest, hrest, heq⟩ := interpolate_append ((List.append_nil parts).symm ▸ h) hset
  obtain ⟨rfl, hunclosed⟩ := dissects_nil_iff.mp hrest
  rw [heq, interpolate_remainder hunclosed]
  cases tail with
  | none => exact congrArg Except.ok (List.append_nil _)
  | some rest => rfl

/-- No mention is refused exactly if all variables mentioned have texts. -/
theorem find?_isUnset_eq_none_iff :
    parts.find? (Part.isUnset environment) = none ↔
      ∀ name, .mention name ∈ parts → environment.text? name ≠ none := by
  rw [List.find?_eq_none]
  constructor
  · intro h name hname
    simpa [Part.isUnset] using h _ hname
  · rintro h (chars | name) hpart
    · exact Bool.false_ne_true
    · simpa [Part.isUnset] using h name hpart

/-- The first variable that is not set is reported. -/
theorem interpolate_of_unset {part : Part} (h : Dissects text parts tail)
    (hfirst : parts.find? (Part.isUnset environment) = some part) :
    ∃ name, part = .mention name ∧ interpolate environment text = .error (.missingVariable name) := by
  obtain ⟨hunset, before, after, rfl, hbefore⟩ := List.find?_eq_some_iff_append.mp hfirst
  have hset : before.find? (Part.isUnset environment) = none :=
    List.find?_eq_none.mpr fun earlier hearlier => by simpa using hbefore earlier hearlier
  obtain ⟨rest, hrest, heq⟩ := interpolate_append h (find?_isUnset_eq_none_iff.mp hset)
  obtain ⟨rest, rfl, hproper, -, -⟩ := dissects_cons_iff.mp hrest
  cases part with
  | literal chars => cases hunset
  | mention name =>
    refine ⟨name, rfl, ?_⟩
    rw [heq, interpolate_mention hproper, Option.isNone_iff_eq_none.mp hunset]
    rfl

/-- **Interpolation is one substitution from left to right.** A text comes apart in exactly one way into
literals, mentions, and perhaps a mention that is not closed at its end. If nothing is left open and all
variables that are mentioned are set, the result is the text with their values in the places of the
mentions, and there is no other way to get a result. Otherwise the first variable that is not set is
missing, or else the mention at the end is not closed. -/
theorem interpolation_is_one_substitution (environment : Environment) (text : List Char) :
    (∃! parts : List Part × Option (List Char), Dissects text parts.1 parts.2) ∧
    ∀ parts tail, Dissects text parts tail →
      (∀ result, interpolate environment text = .ok result ↔
        tail = none ∧ (∀ name, .mention name ∈ parts → environment.text? name ≠ none) ∧
          result = parts.flatMap (Part.filled environment)) ∧
      (∀ name, interpolate environment text = .error (.missingVariable name) ↔
        parts.find? (Part.isUnset environment) = some (.mention name)) ∧
      (interpolate environment text = .error .unclosedMention ↔
        tail ≠ none ∧ ∀ name, .mention name ∈ parts → environment.text? name ≠ none) := by
  refine ⟨?_, fun parts tail h => ?_⟩
  · obtain ⟨parts, tail, h⟩ := exists_dissects text
    refine ⟨(parts, tail), h, fun other hother => ?_⟩
    obtain ⟨hparts, htail⟩ := h.unique hother
    exact Prod.ext hparts htail
  · rw [← find?_isUnset_eq_none_iff]
    cases hfirst : parts.find? (Part.isUnset environment) with
    | none =>
      rw [interpolate_of_set h (find?_isUnset_eq_none_iff.mp hfirst)]
      cases tail <;> simp [eq_comm]
    | some part =>
      obtain ⟨name, rfl, heq⟩ := interpolate_of_unset h hfirst
      simp [heq, eq_comm]

end

/-- An environment in which one value looks like a mention and another one is empty. -/
def mentioningEnvironment : Environment := .ofTexts [("A", "$\x7bB\x7d"), ("B$\x7b", "")]

/-- A dollar before a mention, and braces around one with an opening in its name. -/
def tangledParts : List Part :=
  [.literal ['$'], .mention "A", .literal ['\x7b'], .mention "B$\x7b", .literal ['\x7d']]

/-- The parts, and what may follow them, as one text. -/
def tangledText (tail : Option (List Char)) : List Char :=
  "$$\x7bA\x7d\x7b$\x7bB$\x7b\x7d\x7d".toList ++ remainder tail

theorem dissects_tangledText {tail : Option (List Char)} (h : ∀ rest, tail = some rest → '\x7d' ∉ rest) :
    Dissects (tangledText tail) tangledParts tail where
  joined := rfl
  proper := by
    simp only [tangledParts, List.forall_mem_cons, Part.Proper]
    exact ⟨by decide, by decide, by decide, by decide, by decide, nofun⟩
  maximal := by decide
  unclosed := h

/-- Values that look like mentions stay as they are, and a variable that is not set is reported before
the end that is left open. -/
theorem interpolation_is_one_substitution_tangledText :
    Dissects (tangledText none) tangledParts none ∧
    interpolate mentioningEnvironment (tangledText none) = .ok "$$\x7bB\x7d\x7b\x7d".toList ∧
    Dissects (tangledText (some ['C'])) tangledParts (some ['C']) ∧
    interpolate mentioningEnvironment (tangledText (some ['C'])) = .error .unclosedMention ∧
    interpolate (.ofTexts []) (tangledText (some ['C'])) = .error (.missingVariable "A") := by
  have hclosed : Dissects (tangledText none) tangledParts none := dissects_tangledText nofun
  have hopen : Dissects (tangledText (some ['C'])) tangledParts (some ['C']) :=
    dissects_tangledText (by simp)
  have hset : ∀ name, .mention name ∈ tangledParts → mentioningEnvironment.text? name ≠ none := by
    simp [tangledParts, mentioningEnvironment, List.lookup_cons]
  obtain ⟨hok, -⟩ := (interpolation_is_one_substitution mentioningEnvironment _).2 _ _ hclosed
  obtain ⟨-, -, hunclosed⟩ := (interpolation_is_one_substitution mentioningEnvironment _).2 _ _ hopen
  obtain ⟨-, hmissing, -⟩ := (interpolation_is_one_substitution (.ofTexts []) _).2 _ _ hopen
  exact ⟨hclosed, (hok _).mpr ⟨rfl, hset, rfl⟩, hopen, hunclosed.mpr ⟨nofun, hset⟩,
    (hmissing "A").mpr rfl⟩

end FactGuard.Config
