import FactGuard.Json.Printer
import FactGuard.Json.Token

/-!
# Proofs/Json/Separation — where a written value ends

A text is written in quotes so that it is taken back whole (`takeText_quoted`), and a written value
closes the brackets that it opens and no others (`balanced_text`). So the end of a written object is
found without a look at its members, and a list of objects comes apart again item by item
(`text_objects_inj`). Numbers are no obstacle, although a number is not always known from its text.
-/

namespace FactGuard.Json

open Token (takeText codeUnit?)

/-! ## Texts in quotes -/

/-- The two digits that a control character is escaped with give its code again. -/
theorem codeUnit?_hexPair : ∀ n < 0x20,
    codeUnit? '0' '0' (Nat.digitChar (n / 16)) (Nat.digitChar (n % 16)) = some n := by
  decide

/-- An escaped character is taken back as it was. -/
theorem takeText_escapedChar (c : Char) (rest taken : List Char) :
    takeText (escapedChar c ++ rest) taken none = takeText rest (c :: taken) none := by
  fun_cases escapedChar c with
  | case1 | case2 | case3 | case4 | case5 | case6 | case7 => simp [takeText, Token.escaped?]
  | case8 _ _ _ _ _ _ _ _ hcontrol =>
    have hunit := codeUnit?_hexPair c.toNat hcontrol
    have hleading : Token.isLeading c.toNat = false := by
      simp only [Token.isLeading, Bool.and_eq_false_iff, decide_eq_false_iff_not]
      omega
    have htrailing : Token.isTrailing c.toNat = false := by
      simp only [Token.isTrailing, Bool.and_eq_false_iff, decide_eq_false_iff_not]
      omega
    simp [takeText, hexPair, hunit, hleading, htrailing, Char.ofNat_toNat]
  | case9 _ _ _ _ _ _ _ _ hcontrol =>
    rw [List.singleton_append, takeText, if_neg hcontrol]
    all_goals simp_all

/-- The scanner of texts reads escaped characters back, and stops at the closing quote. -/
theorem takeText_flatMap_escapedChar (cs rest taken : List Char) :
    takeText (cs.flatMap escapedChar ++ '"' :: rest) taken none =
      (⟨.ok (String.ofList (taken.reverse ++ cs)), none⟩, rest) := by
  induction cs generalizing taken with
  | nil => rw [List.flatMap_nil, List.nil_append, takeText, List.append_nil]
  | cons c cs ih =>
    rw [List.flatMap_cons, List.append_assoc, takeText_escapedChar, ih, List.reverse_cons,
      List.append_assoc, List.singleton_append]

/-- A quoted text is one mark, the escaped characters and another mark. -/
theorem toList_quoted_append (s : String) (rest : List Char) :
    (quoted s).toList ++ rest = '"' :: (s.toList.flatMap escapedChar ++ '"' :: rest) := by
  simp [quoted]

/-- **A text in quotes is taken back whole**, up to its closing quote. -/
theorem takeText_quoted (s : String) (rest : List Char) :
    takeText (s.toList.flatMap escapedChar ++ '"' :: rest) [] none = (⟨.ok s, none⟩, rest) := by
  rw [takeText_flatMap_escapedChar, List.reverse_nil, List.nil_append, String.ofList_toList]

/-- **A quoted text ends where it says**, whatever follows it. -/
theorem quoted_append_inj {s t : String} {rest other : List Char}
    (h : (quoted s).toList ++ rest = (quoted t).toList ++ other) : s = t ∧ rest = other := by
  rw [toList_quoted_append, toList_quoted_append, List.cons.injEq] at h
  have htaken := congrArg (fun cs => takeText cs [] none) h.2
  simp only [takeText_quoted, Prod.mk.injEq, Spelling.mk.injEq, Except.ok.injEq, and_true] at htaken
  exact htaken

/-! ## Brackets -/

/-- What follows the bracket that closes the innermost open one, `depth` others having been opened
behind it. Texts are passed over, whatever is in them. -/
def afterBracket (depth : Nat) : List Char → Option (List Char)
  | [] => none
  | c :: cs =>
    if c = '"' then
      have := Token.length_takeText_le cs [] none
      afterBracket depth (takeText cs [] none).2
    else if c = '[' ∨ c = '\x7b' then afterBracket (depth + 1) cs
    else if c = ']' ∨ c = '\x7d' then
      if depth = 0 then some cs else afterBracket (depth - 1) cs
    else afterBracket depth cs
termination_by cs => cs.length

/-- The characters that `afterBracket` does not just pass over. -/
def marks : List Char := ['"', '[', ']', '\x7b', '\x7d']

/-- Characters that are just passed over. -/
def Unmarked (cs : List Char) : Prop := ∀ c ∈ cs, c ∉ marks

@[simp]
theorem unmarked_nil : Unmarked [] := nofun

@[simp]
theorem unmarked_cons {c : Char} {cs : List Char} :
    Unmarked (c :: cs) ↔ c ∉ marks ∧ Unmarked cs :=
  List.forall_mem_cons

@[simp]
theorem unmarked_append {cs ds : List Char} : Unmarked (cs ++ ds) ↔ Unmarked cs ∧ Unmarked ds :=
  List.forall_mem_append

@[simp]
theorem unmarked_replicate {n : Nat} {c : Char} (hc : c ∉ marks) :
    Unmarked (List.replicate n c) := by
  intro d hd
  rwa [List.eq_of_mem_replicate hd]

/-- Characters that close the brackets that they open and no others. -/
def Balanced (cs : List Char) : Prop :=
  ∀ depth rest, afterBracket depth (cs ++ rest) = afterBracket depth rest

theorem balanced_nil : Balanced [] := fun _ _ => rfl

/-- Texts that close what they open can be put one after the other. -/
theorem Balanced.append {cs ds : List Char} (hc : Balanced cs) (hd : Balanced ds) :
    Balanced (cs ++ ds) := by
  intro depth rest
  rw [List.append_assoc, hc, hd]

/-- A character that is no mark is passed over. -/
theorem afterBracket_cons_of_not_mem {c : Char} (hc : c ∉ marks) (depth : Nat) (cs : List Char) :
    afterBracket depth (c :: cs) = afterBracket depth cs := by
  simp only [marks, List.mem_cons, List.not_mem_nil, or_false, not_or] at hc
  obtain ⟨hquote, hlist, hlistEnd, hobject, hobjectEnd⟩ := hc
  rw [afterBracket, if_neg hquote, if_neg (not_or.mpr ⟨hlist, hobject⟩),
    if_neg (not_or.mpr ⟨hlistEnd, hobjectEnd⟩)]

/-- An opening bracket of either kind goes one level down. -/
theorem afterBracket_open {c : Char} (hc : c = '[' ∨ c = '\x7b') (depth : Nat) (cs : List Char) :
    afterBracket depth (c :: cs) = afterBracket (depth + 1) cs := by
  obtain rfl | rfl := hc <;> rw [afterBracket] <;> rfl

theorem afterBracket_close {c : Char} (hc : c = ']' ∨ c = '\x7d') (depth : Nat) (cs : List Char) :
    afterBracket (depth + 1) (c :: cs) = afterBracket depth cs := by
  obtain rfl | rfl := hc <;> rw [afterBracket] <;> rfl

/-- A run without marks opens nothing. -/
theorem Unmarked.balanced {cs : List Char} (h : Unmarked cs) : Balanced cs := by
  intro depth rest
  induction cs with
  | nil => rfl
  | cons c cs ih =>
    obtain ⟨hc, hcs⟩ := unmarked_cons.mp h
    rw [List.cons_append, afterBracket_cons_of_not_mem hc, ih hcs]

/-- The marks within a quoted text are passed over, so it counts as one piece. -/
theorem balanced_quoted (s : String) : Balanced (quoted s).toList := by
  intro depth rest
  rw [toList_quoted_append, afterBracket, if_pos rfl, takeText_quoted]

/-- Brackets around what is balanced are balanced, since the inner brackets close first. -/
theorem Balanced.enclosed {cs : List Char} (h : Balanced cs) {first last : Char}
    (hfirst : first = '[' ∨ first = '\x7b') (hlast : last = ']' ∨ last = '\x7d') :
    Balanced (first :: (cs ++ [last])) := by
  intro depth rest
  rw [List.cons_append, List.append_assoc, List.singleton_append, afterBracket_open hfirst, h,
    afterBracket_close hlast]

/-! ## Written numbers -/

/-- No digit is a mark. -/
theorem digitChar_not_mem_marks (n : Nat) : Nat.digitChar n ∉ marks := by
  grind [Nat.digitChar, marks]

/-- An integer is written without marks. -/
theorem unmarked_toDigits (n : Nat) : Unmarked (Nat.toDigits 10 n) := by
  intro c hc hmark
  have hdigit : c.isDigit := Nat.isDigit_of_mem_toDigits (by decide) (by decide) hc
  have hmarks : ∀ mark ∈ marks, ¬mark.isDigit := by simp [marks]
  exact hmarks c hmark hdigit

theorem unmarked_chars (digits : List Nat) : Unmarked (Decimal.Digits.chars digits) := by
  intro c hc
  obtain ⟨n, _, rfl⟩ := List.mem_map.mp hc
  exact digitChar_not_mem_marks n

theorem unmarked_positional (keepsPoint : Bool) (d : Decimal.Digits) :
    Unmarked (d.positional keepsPoint) := by
  unfold Decimal.Digits.positional
  have hpoint : '.' ∉ marks := by decide
  have hzero : '0' ∉ marks := by decide
  split
  · simp [unmarked_chars, hpoint, hzero]
  · dsimp only
    split
    · split <;> simp [unmarked_chars, hpoint, hzero]
    · simp [unmarked_chars, hpoint]

theorem unmarked_scientific (d : Decimal.Digits) : Unmarked d.scientific := by
  unfold Decimal.Digits.scientific
  have hpoint : '.' ∉ marks := by decide
  have hexponent : 'e' ∉ marks := by decide
  have hsign : (if d.point - 1 < 0 then '-' else '+') ∉ marks := by split <;> decide
  simp only [unmarked_append, unmarked_cons]
  refine ⟨⟨unmarked_chars _, ?_⟩, hexponent, hsign, unmarked_toDigits _⟩
  -- a single digit has no fraction
  split <;> simp [unmarked_chars, hpoint]

/-- Neither layout of decimals brings a mark. -/
theorem unmarked_digits (layout : Decimal.Layout) (d : Decimal.Digits) :
    Unmarked (layout.digits d) := by
  unfold Decimal.Layout.digits
  split
  · exact unmarked_positional _ d
  · split
    · exact unmarked_positional _ d
    · exact unmarked_scientific d

/-- **No number has a mark in its text.** -/
theorem unmarked_write? {layout : Decimal.Layout} {x : Float} {s : String}
    (h : layout.write? x = some s) : Unmarked s.toList := by
  have hsign : Unmarked (if Decimal.isNegative x then "-" else "").toList := by
    split <;> simp [marks]
  have hzero : Unmarked (if layout.keepsPoint then "0.0" else "0").toList := by
    split <;> simp [marks]
  unfold Decimal.Layout.write? at h
  dsimp only at h
  split at h <;> cases h
  · rw [String.toList_append, unmarked_append]
    exact ⟨hsign, hzero⟩
  · rw [String.toList_append, unmarked_append, String.toList_ofList]
    exact ⟨hsign, unmarked_digits layout _⟩

/-- A written number has no quote and no bracket in it. -/
theorem unmarked_numberText (n : Number) : Unmarked (numberText n).toList := by
  have hnull : Unmarked "null".toList := by simp [marks]
  cases n with
  | whole value =>
    cases value with
    | ofNat m => simpa [numberText, toString, Int.repr] using unmarked_toDigits m
    | negSucc m =>
      have hminus : '-' ∉ marks := by decide
      simpa [numberText, toString, Int.repr, hminus] using unmarked_toDigits (m + 1)
  | real value =>
    rw [numberText]
    cases h : Decimal.Layout.document.write? value with
    | none => exact hnull
    | some s => exact unmarked_write? h

/-! ## Written values -/

/-- A member as text. -/
def memberText (member : String × Json) : String := quoted member.1 ++ ":" ++ member.2.text

theorem itemsText_eq (items : List Json) :
    itemsText items = String.intercalate "," (items.map text) := by
  induction items with
  | nil => rfl
  | cons item rest ih =>
    cases rest with
    | nil => rfl
    | cons next more =>
      rw [itemsText, ih]
      · simp only [List.map_cons, String.intercalate_cons_cons]
      · exact List.cons_ne_nil next more

theorem membersText_eq (members : List (String × Json)) :
    membersText members = String.intercalate "," (members.map memberText) := by
  induction members with
  | nil => rfl
  | cons member rest ih =>
    obtain ⟨name, value⟩ := member
    cases rest with
    | nil => rfl
    | cons next more =>
      rw [membersText, ih]
      · simp only [List.map_cons, String.intercalate_cons_cons, memberText]
      · exact List.cons_ne_nil next more

/-- Balanced parts stay balanced with commas between them. -/
theorem balanced_intercalate {parts : List String} (h : ∀ part ∈ parts, Balanced part.toList) :
    Balanced (String.intercalate "," parts).toList := by
  have hcomma : Balanced ",".toList := Unmarked.balanced (by simp [marks])
  induction parts with
  | nil => exact balanced_nil
  | cons part parts ih =>
    obtain ⟨hpart, hparts⟩ := List.forall_mem_cons.mp h
    cases parts with
    | nil => exact hpart
    | cons next more =>
      rw [String.intercalate_cons_cons, String.toList_append, String.toList_append]
      exact (hpart.append hcomma).append (ih hparts)

/-- The members of an object are balanced if their values are. -/
theorem balanced_membersText {members : List (String × Json)}
    (h : ∀ member ∈ members, Balanced member.2.text.toList) :
    Balanced (membersText members).toList := by
  have hcolon : Balanced ":".toList := Unmarked.balanced (by simp [marks])
  rw [membersText_eq]
  refine balanced_intercalate fun part hpart => ?_
  obtain ⟨member, hmember, rfl⟩ := List.mem_map.mp hpart
  rw [memberText, String.toList_append, String.toList_append]
  exact ((balanced_quoted _).append hcolon).append (h member hmember)

/-- An object is its members between braces. -/
theorem toList_text_object (members : List (String × Json)) :
    (Json.object members).text.toList = '\x7b' :: ((membersText members).toList ++ ['\x7d']) := by
  simp [text]

/-- **A written value closes the brackets that it opens** and no others. -/
theorem balanced_text (json : Json) : Balanced json.text.toList := by
  induction json using Json.induction with
  | null => exact Unmarked.balanced (by simp [text, marks])
  | bool flag => cases flag <;> exact Unmarked.balanced (by simp [text, marks])
  | number n => exact (unmarked_numberText n).balanced
  | string s => exact balanced_quoted s
  | array items ih =>
    have hitems : Balanced (itemsText items).toList := by
      rw [itemsText_eq]
      refine balanced_intercalate fun part hpart => ?_
      obtain ⟨item, hitem, rfl⟩ := List.mem_map.mp hpart
      exact ih item hitem
    simpa [text] using hitems.enclosed (.inl rfl) (.inl rfl)
  | object members ih =>
    rw [toList_text_object]
    exact (balanced_membersText ih).enclosed (.inr rfl) (.inr rfl)

/-! ## Written values come apart -/

/-- A text from a brace to the brace that closes it. -/
def Braced (s : String) : Prop := ∃ cs, s.toList = '\x7b' :: (cs ++ ['\x7d']) ∧ Balanced cs

/-- An object is balanced, and its braces enclose all of it. -/
theorem braced_text_object (members : List (String × Json)) : Braced (Json.object members).text :=
  ⟨_, toList_text_object members, balanced_membersText fun member _ => balanced_text member.2⟩

/-- The end of a text in braces is found in whatever follows it. -/
theorem Braced.append_inj {s t : String} (hs : Braced s) (ht : Braced t) {rest other : List Char}
    (h : s.toList ++ rest = t.toList ++ other) : s = t ∧ rest = other := by
  have hend : ∀ {cs rest : List Char}, Balanced cs →
      afterBracket 0 (cs ++ '\x7d' :: rest) = some rest := by
    intro cs rest hcs
    rw [hcs, afterBracket]
    rfl
  obtain ⟨cs, hcs, hbalanced⟩ := hs
  obtain ⟨ds, hds, hother⟩ := ht
  have hrest : rest = other := by
    rw [hcs, hds] at h
    have hafter := congrArg (afterBracket 0) (List.cons.inj h).2
    simpa [hend hbalanced, hend hother] using hafter
  subst hrest
  exact ⟨String.toList_inj.mp (List.append_cancel_right h), rfl⟩

theorem Braced.append_ne_nil {s : String} (h : Braced s) (rest : List Char) :
    s.toList ++ rest ≠ [] := by
  obtain ⟨cs, hcs, -⟩ := h
  simp [hcs]

/-- What follows the first of several parts. -/
def following : List String → List Char
  | [] => []
  | part :: parts => ',' :: (String.intercalate "," (part :: parts)).toList

/-- The parts after the first come with the comma before each. -/
theorem toList_intercalate_cons (part : String) (parts : List String) :
    (String.intercalate "," (part :: parts)).toList = part.toList ++ following parts := by
  cases parts with
  | nil => rw [following, String.intercalate_singleton, List.append_nil]
  | cons next more => simp [following, String.intercalate_cons_cons]

/-- Lists with the same text after each part have the same text between parts. -/
theorem intercalate_of_following {parts others : List String}
    (h : following parts = following others) :
    String.intercalate "," parts = String.intercalate "," others := by
  cases parts <;> cases others
  · rfl
  · cases h
  · cases h
  · exact String.toList_inj.mp (List.cons.inj h).2

/-- Texts in braces come apart again. -/
theorem intercalate_inj {parts others : List String} (hparts : ∀ part ∈ parts, Braced part)
    (hothers : ∀ other ∈ others, Braced other)
    (h : String.intercalate "," parts = String.intercalate "," others) : parts = others := by
  induction parts generalizing others with
  | nil =>
    cases others with
    | nil => rfl
    | cons other others =>
      have hnil := congrArg String.toList h
      rw [toList_intercalate_cons] at hnil
      exact absurd hnil.symm ((hothers other List.mem_cons_self).append_ne_nil _)
  | cons part parts ih =>
    obtain ⟨hpart, hmine⟩ := List.forall_mem_cons.mp hparts
    have hcons := congrArg String.toList h
    cases others with
    | nil =>
      rw [toList_intercalate_cons] at hcons
      exact absurd hcons (hpart.append_ne_nil _)
    | cons other others =>
      obtain ⟨hother, htheirs⟩ := List.forall_mem_cons.mp hothers
      rw [toList_intercalate_cons, toList_intercalate_cons] at hcons
      obtain ⟨rfl, hfollowing⟩ := hpart.append_inj hother hcons
      rw [ih hmine htheirs (intercalate_of_following hfollowing)]

/-- **A list of objects is known from its text** as far as an object is known from its members. -/
theorem text_objects_inj {xs ys : List (List (String × Json))}
    (h : (Json.array (xs.map .object)).text = (Json.array (ys.map .object)).text) :
    xs.map membersText = ys.map membersText := by
  have hobject : ∀ zs : List (List (String × Json)),
      (zs.map Json.object).map text = (zs.map membersText).map fun s => "\x7b" ++ s ++ "\x7d" := by
    intro zs
    rw [List.map_map, List.map_map]
    exact List.map_congr_left fun members _ => by rw [Function.comp, text, Function.comp]
  have hbraced : ∀ zs : List (List (String × Json)),
      ∀ s ∈ (zs.map Json.object).map text, Braced s := by
    intro zs s hs
    obtain ⟨_, hobjects, rfl⟩ := List.mem_map.mp hs
    obtain ⟨members, _, rfl⟩ := List.mem_map.mp hobjects
    exact braced_text_object members
  have hparts : (xs.map Json.object).map text = (ys.map Json.object).map text := by
    refine intercalate_inj (hbraced xs) (hbraced ys) ?_
    simpa [text, itemsText_eq] using h
  rw [hobject, hobject] at hparts
  refine (List.map_inj_right fun s t hst => ?_).mp hparts
  simpa using hst

/-- The text of the first member is known from the text of all, and so is the text of the others. -/
theorem membersText_string_inj {name s t : String} {more others : List (String × Json)}
    (h : membersText ((name, .string s) :: more) = membersText ((name, .string t) :: others)) :
    s = t ∧ membersText more = membersText others := by
  have hchars := congrArg String.toList h
  simp only [membersText_eq, List.map_cons, toList_intercalate_cons, memberText, text,
    String.toList_append, List.append_assoc] at hchars
  -- Both texts begin with the same name and a colon.
  have hfirst := List.append_cancel_left (List.append_cancel_left hchars)
  obtain ⟨hvalue, hfollowing⟩ := quoted_append_inj hfirst
  refine ⟨hvalue, ?_⟩
  rw [membersText_eq, membersText_eq, intercalate_of_following hfollowing]

end FactGuard.Json
